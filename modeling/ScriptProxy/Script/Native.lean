import ScriptProxy.Script.Line

/-!
# Functions of the engine

A function that the engine provides is known by what it does. They are grouped by the object that
has them: what they do is said in the modules of the library, group by group.
-/

namespace ScriptProxy.Script

/-- The kinds of errors. -/
inductive ErrorKind where
  | general
  | evaluation
  | range
  | reference
  | reading
  | type
  | address
  | engine
  deriving DecidableEq, Repr

namespace ErrorKind

def name : ErrorKind → String
  | general => "Error"
  | evaluation => "EvalError"
  | range => "RangeError"
  | reference => "ReferenceError"
  | reading => "SyntaxError"
  | type => "TypeError"
  | address => "URIError"
  | engine => "InternalError"

/-- All kinds but the general one. -/
def special : List ErrorKind :=
  [evaluation, range, reference, reading, type, address, engine]

end ErrorKind

/-- What is given of the elements of an array that are gone through one by one. -/
inductive Part where
  | number
  | element
  /-- An array of the number and the element. -/
  | both

/-- The functions that make values. -/
inductive Constructor where
  | object
  | function
  | error (k : ErrorKind)
  | array
  | number
  | bool
  | string
  /-- One that does nothing unless it is asked for a new object. -/
  | other

/-- The methods of all objects. -/
inductive ObjectMethod where
  | text
  | localeText
  | itself
  /-- Whether an object has a property of its own. -/
  | owns
  /-- Whether an object has a property of its own that is listed. -/
  | lists
  /-- Whether an object has the properties of another. -/
  | liesBehind
  /-- The object behind an object. -/
  | behind
  /-- Puts an object behind an object. -/
  | putBehind
  | defineGetter
  | defineSetter
  | getterOf
  | setterOf

/-- The functions that look into objects and change them. -/
inductive ObjectFunction where
  | assign
  | create
  | define
  | defineAll
  | entries
  | freeze
  | ofEntries
  /-- Puts values that a function gives the same name into arrays under that name. -/
  | group
  | describe
  | describeAll
  | names
  | symbols
  | behind
  | owns
  | same
  | isOpen
  | isFrozen
  | isSealed
  | keys
  | close
  | sealUp
  | putBehind
  | values

/-- The methods of functions. -/
inductive FunctionMethod where
  /-- Calls a function with a given `this`. -/
  | call
  /-- Calls a function with a given `this` and the arguments from an array. -/
  | spread
  /-- Makes a function that has its `this` and its first arguments. -/
  | bind
  | text
  /-- Does nothing. -/
  | nothing
  /-- Says that a property must not be read. -/
  | refuse

/-- The methods of errors. -/
inductive ErrorMethod where
  | text

/-- The functions that are about arrays. -/
inductive ArrayFunction where
  | isArray
  | ofElements

/-- The methods of arrays. -/
inductive ArrayMethod where
  | element
  | replaced
  | concat
  | every
  | any
  | forEach
  | map
  | filter
  | fold
  | foldBack
  | fill
  | find
  | findIndex
  | findLast
  | findLastIndex
  | indexOf
  | lastIndexOf
  | includes
  | join
  | text
  | localeText
  | pop
  | push
  | shift
  | unshift
  | reverse
  | reversed
  | sort
  | sorted
  | slice
  | splice
  | spliced
  | copyWithin
  | flatMap
  | flat
  /-- Gives something that goes through the elements one by one. -/
  | iterate (part : Part)

/-- The methods of the objects that stand for numbers, truth values and texts. -/
inductive BoxMethod where
  | numberText
  | numberValue
  | boolText
  | boolValue
  | stringText
  | stringValue

/-- The functions of mathematics. -/
inductive Mathematical where
  | min
  | max
  /-- A function of one number. -/
  | unary (f : Float → Float)
  /-- A function of two numbers. -/
  | binary (f : Float → Float → Float)
  | imul
  | clz
  | hypotenuse

/-- The functions that stand for themselves. -/
inductive GlobalFunction where
  | evaluate
  | isNaN
  | isFinite
  | parseInt
  | parseFloat

inductive Native where
  | constructor (c : Constructor)
  | objectMethod (f : ObjectMethod)
  | object (f : ObjectFunction)
  | functionMethod (f : FunctionMethod)
  | errorMethod (f : ErrorMethod)
  | array (f : ArrayFunction)
  | arrayMethod (f : ArrayMethod)
  | boxMethod (f : BoxMethod)
  | mathematical (f : Mathematical)
  | global (f : GlobalFunction)
  /-- Writes a value down. -/
  | write
  /-- Prints its arguments, if lines are wanted at all. -/
  | print (level : Level) (wanted : Bool)

end ScriptProxy.Script
