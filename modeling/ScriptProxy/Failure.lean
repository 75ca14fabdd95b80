import ScriptProxy.ClassFile.ElementValue
import ScriptProxy.Duration
import ScriptProxy.Text.Quoted

/-!
# Failures

What can go wrong, as causes, and the text of each. `Failure` is the type that every operation of
the library fails with. The types before it are the causes of one kind of failure each, and every
one of them has a `message`.

A cause `stated` carries the words of a caller: a registrar or a unit of work may refuse in its own.
-/

namespace ScriptProxy

open ClassFile (Constant ElementValue)
open Text (quoted quotedChar hexNumeral)

/-- `n` in upper-case hexadecimal with at least `width` digits, after `0x`. -/
def paddedHex (width n : Nat) : String :=
  let digits := (Nat.toDigits 16 n).map Char.toUpper
  "0x" ++ String.ofList (List.replicate (width - digits.length) '0' ++ digits)

/-- The tables of a class that are counted with sixteen bits. -/
inductive Table where
  | interfaces
  | fields
  | methods
  deriving DecidableEq, Repr

def Table.name : Table → String
  | interfaces => "interfaces"
  | fields => "fields"
  | methods => "methods"

/-- What is wrong with a class file or a part of it. -/
inductive Defect where
  | stated (text : String)
  -- class files
  | badMagic (found : UInt32)
  | trailingBytes (count : Nat)
  | tableTooLong (table : Table) (length : Nat)
  | tooManyAttributes
  | attributeTooLong
  -- constant pools
  | emptyPool
  | wideConstantLast
  | unknownConstantTag (tag : UInt8) (offset : Nat)
  | utf8TooLong
  | invalidIndex (index : UInt16) (count : Nat)
  | notUtf8 (index : UInt16) (found : Constant)
  | notClass (index : UInt16) (found : Constant)
  | notMethodReference (index : UInt16) (found : Constant)
  | notNameAndType (index : UInt16)
  -- texts of constants
  | rawNul
  | truncatedPair
  | truncatedTriple
  | badContinuation (byte : UInt8)
  | badContinuations
  | badLeadByte (byte : UInt8)
  | unpairedSurrogate
  -- method bodies
  | emptyCode
  | codeLength (length : Nat)
  | tooManyHandlers
  -- annotations
  | unknownElementTag (tag : UInt8)
  | trailingAnnotationBytes (count : Nat)
  | annotationTableTooLong
  | notString (found : ElementValue)
  | notInteger (found : Constant)
  | notIntegerElement (found : ElementValue)
  -- descriptors
  | descriptorEnd (descriptor : String)
  | openClassName (descriptor : String)
  | badClassName (name descriptor : String)
  | tooManyDimensions (count : Nat) (descriptor : String)
  | misplacedVoid (descriptor : String)
  | badDescriptorByte (byte : UInt8) (descriptor : String)
  | descriptorTail (descriptor : String)
  | noParameterList (descriptor : String)
  | openParameterList (descriptor : String)
  -- instructions
  | undefinedOpcode (byte : UInt8) (offset : Nat)
  | badWideOpcode (byte : UInt8) (offset : Nat)
  | switchBounds (offset : Nat)
  | switchCount (offset : Nat)
  | stackUnderflow (offset needed present : Nat)

namespace Defect

def message : Defect → String
  | stated text => text
  | badMagic m => s!"Invalid magic {paddedHex 8 m.toNat}"
  | trailingBytes n => s!"{n} trailing bytes after class file"
  | tableTooLong t n => s!"Too many {t.name}: {n}"
  | tooManyAttributes => "More than 65535 attributes"
  | attributeTooLong => "Attribute body exceeds u32 length"
  | emptyPool => "constant_pool_count must be at least 1"
  | wideConstantLast => "Wide constant in the last pool slot"
  | unknownConstantTag t o => s!"Unknown constant pool tag {t.toNat} at offset {o}"
  | utf8TooLong => "Utf8 constant longer than 65535 bytes"
  | invalidIndex i n => s!"Invalid constant pool index {i.toNat} (count {n})"
  | notUtf8 i c => s!"Expected Utf8 constant at {i.toNat}, found {c.describe}"
  | notClass i c => s!"Expected Class constant at {i.toNat}, found {c.describe}"
  | notMethodReference i c => s!"Expected method reference at {i.toNat}, found {c.describe}"
  | notNameAndType i => s!"Expected NameAndType at {i.toNat}"
  | rawNul => "Raw NUL byte in modified UTF-8"
  | truncatedPair => "Truncated two-byte sequence"
  | truncatedTriple => "Truncated three-byte sequence"
  | badContinuation b => s!"Invalid continuation byte 0x{hexNumeral b.toNat}"
  | badContinuations => "Invalid continuation byte"
  | badLeadByte b => s!"Invalid modified UTF-8 lead byte 0x{hexNumeral b.toNat}"
  | unpairedSurrogate => "Unpaired surrogate in Utf8 constant"
  | emptyCode => "Code attribute with empty code array"
  | codeLength n => s!"Code length {n} outside 1..=65535"
  | tooManyHandlers => "Exception table overflow"
  | unknownElementTag t => s!"Unknown element_value tag {quotedChar (Char.ofUInt8 t)}"
  | trailingAnnotationBytes n => s!"{n} trailing bytes after annotation list"
  | annotationTableTooLong => "Annotation table overflow"
  | notString v => s!"Expected a string element, found {v.describe}"
  | notInteger c => s!"Expected Integer constant, found {c.describe}"
  | notIntegerElement v => s!"Expected an int element, found {v.describe}"
  | descriptorEnd d => s!"Descriptor {quoted d} ends early"
  | openClassName d => s!"Unterminated class name in {quoted d}"
  | badClassName n d => s!"Invalid class name {quoted n} in {quoted d}"
  | tooManyDimensions n d => s!"{n} array dimensions in {quoted d}, at most 255 are allowed"
  | misplacedVoid d => s!"void is only valid as a return kind in {quoted d}"
  | badDescriptorByte b d =>
    s!"Unknown descriptor character {quotedChar (Char.ofUInt8 b)} in {quoted d}"
  | descriptorTail d => s!"Trailing characters in descriptor {quoted d}"
  | noParameterList d => s!"Method descriptor {quoted d} must start with " ++ quotedChar '('
  | openParameterList d => s!"Unterminated parameter list in {quoted d}"
  | undefinedOpcode b o => s!"Undefined opcode {paddedHex 2 b.toNat} at {o}"
  | badWideOpcode b o => s!"Invalid wide modified opcode {paddedHex 2 b.toNat} at {o}"
  | switchBounds o => s!"tableswitch high < low at {o}"
  | switchCount o => s!"Negative lookupswitch count at {o}"
  | stackUnderflow o n p => s!"Operand stack underflow at offset {o}: need {n} slots, have {p}"

end Defect

/-- Why no proxy can be made for a method. -/
inductive ProxyDefect where
  | stated (text : String)
  | badDescriptor (defect : Defect)
  | tooManySlots (count : Nat)

def ProxyDefect.message : ProxyDefect → String
  | stated text => text
  | badDescriptor d => "invalid descriptor: Malformed: " ++ d.message
  | tooManySlots n => s!"{n} parameter slots exceed the limit of 255"

/-- What is asked for and not provided. -/
inductive Unsupported where
  | stated (text : String)
  | fullPool
  | pageScheme (url : String)
  | agentKey (key : String)

def Unsupported.message : Unsupported → String
  | stated text => text
  | fullPool => "constant pool would exceed 65535 entries"
  | pageScheme url => s!"Only file:// pages can be loaded, not {url}"
  | agentKey key => s!"Unknown agent argument {quoted key}"

inductive FileFault where
  | notFound
  | isDirectory
  | notDirectory
  | longName
  | zeroInName
  | notText
  deriving DecidableEq, Repr

def FileFault.message : FileFault → String
  | notFound => "No such file or directory (os error 2)"
  | isDirectory => "Is a directory (os error 21)"
  | notDirectory => "Not a directory (os error 20)"
  | longName => "File name too long (os error 36)"
  | zeroInName => "file name contained an unexpected NUL byte"
  | notText => "stream did not contain valid UTF-8"

/-- What is wrong with the markup of a page. -/
inductive MarkupFault where
  | openTag
  | openComment
  | openSection
  | openDeclaration
  | openInstruction
  | unknownDeclaration
  | unnamedDeclaration
  | unknownEntity (name : String)
  | openEntity
  | badCharacter (numeral : String)
  deriving DecidableEq, Repr

def MarkupFault.message : MarkupFault → String
  | openTag => "a tag is not closed"
  | openComment => "a comment is not closed"
  | openSection => "a character data section is not closed"
  | openDeclaration => "a declaration is not closed"
  | openInstruction => "a processing instruction is not closed"
  | unknownDeclaration => "unknown declaration"
  | unnamedDeclaration => "a document type declaration without a name"
  | unknownEntity name => s!"unknown entity {quoted name}"
  | openEntity => "an entity is not closed"
  | badCharacter numeral => s!"no character has the number {quoted numeral}"

/-- What is wrong with the attributes of a tag. -/
inductive AttributeFault where
  | duplicate (name : String)
  | noValue (name : String)
  | openQuote (name : String)
  deriving DecidableEq, Repr

def AttributeFault.message : AttributeFault → String
  | duplicate name => s!"{quoted name} is given twice"
  | noValue name => s!"{quoted name} has no value after its equals sign"
  | openQuote name => s!"the value of {quoted name} lacks its closing quote"

/-- Why a page could not be brought up, or why there is none to work on. -/
inductive BootFault where
  | stated (text : String)
  | markup (fault : MarkupFault)
  | scriptAttribute (fault : AttributeFault)
  | openScript
  | beyondScriptTag
  | badNamespace (name : String)
  | noPage
  | notLaunched
  | busy (state : String)

def BootFault.message : BootFault → String
  | stated text => text
  | markup f => "page could not be read: " ++ f.message
  | scriptAttribute f => "bad script attribute: " ++ f.message
  | openScript => "page could not be read: unterminated <script>"
  | beyondScriptTag => "page could not be read past a <script> tag"
  | badNamespace name => s!"invalid namespace name {quoted name}"
  | noPage => "no page is loaded"
  | notLaunched => "the session was not launched"
  | busy state => s!"the session cannot run work while {state}"

/-- Wrong use of the library, or a refusal by one of its callers. -/
inductive Misuse where
  | stated (text : String)
  | notKeyValue (item : String)
  | notBridge (value : String)
  | notMilliseconds (key value : String)
  | notBoolean (key value : String)
  | fullHandleTable

def Misuse.message : Misuse → String
  | stated text => text
  | notKeyValue item => s!"Agent argument {quoted item} is not key=value"
  | notBridge value => s!"bridge {quoted value} must be class#method"
  | notMilliseconds key value => s!"{key} expects milliseconds, got {quoted value}"
  | notBoolean key value => s!"{key} expects a boolean, got {quoted value}"
  | fullHandleTable => "object handle table is full"

inductive Failure where
  | malformed (defect : Defect)
  /-- A read beyond the end of the input. -/
  | outOfBounds
  | notSupported (what : Unsupported)
  | empty
  | file (fault : FileFault)
  /-- No proxy can be made for a method, which is given by its name and descriptor. -/
  | rewrite (method : String) (defect : ProxyDefect)
  | boot (fault : BootFault)
  | bootTimeout (limit : Duration)
  | executionTimeout (limit : Duration)
  /-- An exception that a script raised. -/
  | script (message : String)
  | unknownFunction (module name : String)
  /-- An error that a unit of work failed with, in its own words. -/
  | work (message : String)
  /-- Execution was asked for from inside an execution. -/
  | reentrant
  /-- Whoever was to answer is gone. -/
  | disconnected
  | misuse (what : Misuse)
  /-- No value of a failure: the call breaks off, with a text that says why. -/
  | panic (payload : String)

namespace Failure

/-- An addition whose sum is beyond its type of number. -/
def addOverflow : Failure := .panic "attempt to add with overflow"

/-- A wait up to a time that the clock does not have. -/
def noDeadline : Failure := .panic "overflow when adding duration to instant"

/-- Calls that go deeper than the stack. -/
def stackOverflow : Failure := .panic "the stack has overflowed"

/-- A wait of the engine of a session for itself. -/
def deadlock : Failure := .panic "the engine waits for itself"

/-- Why a call breaks off, if that is what the failure stands for. -/
def panic? : Failure → Option String
  | panic payload => some payload
  | _ => none

/-- The text of a failure. `site` tells where a defect of a class file was noticed, if that is to be
shown. -/
def describe (site : Option String) : Failure → String
  | malformed d => "Malformed" ++ (site.elim "" (" - " ++ ·)) ++ ": " ++ d.message
  | outOfBounds => "Out of Bound read would have occurred" ++ site.elim "" (" - " ++ ·)
  | notSupported u => "Not supported: " ++ u.message
  | empty => "Provided input was empty"
  | file f => f.message
  | rewrite method d => s!"Cannot rewrite {method}: {d.message}"
  | boot f => "Script engine failed to boot: " ++ f.message
  | bootTimeout d => s!"Script engine did not become ready within {d.describe}"
  | executionTimeout d => s!"Execution did not complete within {d.describe}"
  | script m => "Script error: " ++ m
  | unknownFunction m n => s!"Function {m}.{n} is not defined"
  | work m => m
  | reentrant => "Reentrant execution on the engine thread is not supported"
  | disconnected => "The script engine thread terminated"
  | misuse m => m.message
  | panic payload => payload

/-- The error of a unit of work, if the failure is one. -/
def workError? : Failure → Option String
  | work m => some m
  | _ => none

end Failure

/-- Fails with a defect. -/
def Defect.fail {α : Type} (d : Defect) : Except Failure α := .error (.malformed d)

end ScriptProxy
