import ScriptProxy.Failure
import ScriptProxy.Text.Blank

/-!
# Configuration

What marks an import, what its proxy calls, which parameter classes are passed as texts, and how
long to wait for pages and for work. `Config.ofAgentArguments` reads a list of settings in one text,
`key=value,key=value`, on top of the defaults.
-/

namespace ScriptProxy.Import

structure Config where
  /-- The descriptor of the annotation that marks an import. -/
  marker : String
  bridgeClass : String
  /-- A static method of the bridge class, of the descriptor `bridgeDescriptor`. -/
  bridgeMethod : String
  /-- The classes whose objects are passed to a script as texts. -/
  stringWrappers : List String
  /-- The global object that holds the modules of functions. -/
  namespaceName : String
  /-- How long to wait for a page. Without a limit the wait does not end. -/
  bootTimeout : Option Duration
  executionTimeout : Option Duration
  /-- Whether the first work on a session without a page loads the default page. -/
  autoBoot : Bool
  defaultPage : String
  forwardConsole : Bool
  deriving DecidableEq, Repr

/-- The descriptor of the bridge method: it takes a module, a name and the arguments, and gives the
result. -/
def bridgeDescriptor : String :=
  "(Ljava/lang/String;Ljava/lang/String;[Ljava/lang/Object;)Ljava/lang/Object;"

namespace Config

def standard : Config where
  marker := "Lde/inetsoftware/jwebassembly/api/annotation/Import;"
  bridgeClass := "de/inetsoftware/jwebassembly/emulator/JWebAssemblyEmulator$JavaFxApplication"
  bridgeMethod := "executeScript"
  stringWrappers := ["de/inetsoftware/jwebassembly/web/DOMString"]
  namespaceName := "wasmImports"
  bootTimeout := some (.ofSeconds 30)
  executionTimeout := none
  autoBoot := true
  defaultPage := ""
  forwardConsole := true

instance : Inhabited Config := ⟨standard⟩

/-- No limit on any wait. -/
def unbounded : Config := { standard with bootTimeout := none, executionTimeout := none }

/-- Short limits, so that a page that hangs fails soon. -/
def testing : Config :=
  { standard with bootTimeout := some (.ofSeconds 5), executionTimeout := some (.ofSeconds 10) }

/-- Whether the objects of a class are passed as texts. -/
def isStringWrapper (c : Config) (name : String) : Bool := c.stringWrappers.contains name

/-! ### Agent arguments -/

/-- The parts of a text between the occurrences of a character. -/
def parts (sep : Char) (cs : List Char) : List (List Char) :=
  cs.foldr (fun c ps =>
    if c = sep then [] :: ps
    else match ps with
      | [] => [[c]]
      | p :: rest => (c :: p) :: rest) [[]]

/-- The parts of a text before and behind the first occurrence of a character. -/
def cut? (sep : Char) (s : String) : Option (String × String) :=
  match s.toList.dropWhile (· != sep) with
  | [] => none
  | _ :: after => some (String.ofList (s.toList.takeWhile (· != sep)), String.ofList after)

/-- A class name with `/` between its parts, in place of `.`. -/
def slashed (s : String) : String :=
  String.ofList (s.toList.map fun c => if c = '.' then '/' else c)

/-- The descriptor of a class, given by its name or by the descriptor itself. -/
def classDescriptor (s : String) : String :=
  let name := slashed s
  if name.toList.head? = some 'L' && name.toList.getLast? = some ';' then name
  else "L" ++ name ++ ";"

/-- The number of a decimal numeral that fits 64 bits. A plus sign may stand before it. -/
def word64? (s : String) : Option Nat :=
  let digits := match s.toList with
    | '+' :: rest => rest
    | cs => cs
  if digits.isEmpty || !digits.all Char.isDigit then none
  else
    let n := digits.foldl (fun n c => 10 * n + (c.toNat - '0'.toNat)) 0
    if n < UInt64.size then some n else none

/-- A limit in milliseconds. Zero stands for none. -/
def timeLimit (key value : String) : Except Failure (Option Duration) :=
  match word64? value with
  | some 0 => .ok none
  | some n => .ok (some (.ofMilliseconds n))
  | none => .error (.misuse (.notMilliseconds key value))

def boolean (key value : String) : Except Failure Bool :=
  if value ∈ ["true", "1", "yes", "on"] then .ok true
  else if value ∈ ["false", "0", "no", "off"] then .ok false
  else .error (.misuse (.notBoolean key value))

/-- The configuration after one setting. -/
def set (c : Config) (key value : String) : Except Failure Config :=
  if key = "annotation" then .ok { c with marker := classDescriptor value }
  else if key = "bridge" then
    match cut? '#' value with
    | some (owner, method) => .ok { c with bridgeClass := slashed owner, bridgeMethod := method }
    | none => .error (.misuse (.notBridge value))
  else if key = "string_wrapper" then
    .ok { c with stringWrappers := c.stringWrappers ++ [slashed value] }
  else if key = "namespace" then .ok { c with namespaceName := value }
  else if key = "boot_timeout_ms" then
    (fun t => { c with bootTimeout := t }) <$> timeLimit key value
  else if key = "execute_timeout_ms" then
    (fun t => { c with executionTimeout := t }) <$> timeLimit key value
  else if key = "auto_boot" then (fun b => { c with autoBoot := b }) <$> boolean key value
  else if key = "console" then (fun b => { c with forwardConsole := b }) <$> boolean key value
  else .error (.notSupported (.agentKey key))

/-- The configuration after one item of the form `key=value`. -/
def apply (c : Config) (item : String) : Except Failure Config :=
  match cut? '=' item with
  | some (key, value) => c.set (Text.trim key) (Text.trim value)
  | none => .error (.misuse (.notKeyValue item))

/-- The items between the commas of a text, without blanks around them and without empty ones. -/
def items (arguments : String) : List String :=
  ((parts ',' arguments.toList).map fun p => Text.trim (String.ofList p)).filter (· ≠ "")

/-- The configuration that a list of settings makes of the defaults. -/
def ofAgentArguments (arguments : String) : Except Failure Config :=
  (items arguments).foldlM apply standard

end Config

end ScriptProxy.Import
