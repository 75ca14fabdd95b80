import ScriptProxy.Script.Expression
import ScriptProxy.Script.Token

/-!
# Reading scripts

`program` reads a text as a list of statements. Each rule of the grammar is a function from the
tokens that are left to what it has read; the fuel bounds how deep the rules call each other, and
the tokens of a text are more than enough of it. Scripts are read in strict mode, in which some
more words are no names.
-/

namespace ScriptProxy.Script

/-- Reads something from the tokens that are left. -/
abbrev Reading (α : Type) := StateT (List Lexeme) (Except String) α

namespace Reading

/-- The words that are no names. -/
def keywords : List String :=
  ["break", "case", "catch", "class", "const", "continue", "debugger", "default", "delete", "do",
    "else", "enum", "export", "extends", "false", "finally", "for", "function", "if", "import",
    "in", "instanceof", "new", "null", "return", "super", "switch", "this", "throw", "true", "try",
    "typeof", "var", "void", "while", "with"]

/-- The words that are no names in strict mode. -/
def strictKeywords : List String :=
  ["implements", "interface", "let", "package", "private", "protected", "public", "static", "yield"]

def isName (w : String) : Bool := !keywords.contains w && !strictKeywords.contains w

/-- The next token, which is not taken. -/
def next? : Reading (Option Token) := do
  match ← get with
  | [] => return none
  | l :: _ =>
    match l.token with
    | .fault message => throw message
    | t => return some t

/-- Passes the next token. -/
def skip : Reading Unit := modify List.tail

/-- Refuses the next token. -/
def refuse {α : Type} (message : Token → String) : Reading α := do
  match ← next? with
  | none => throw "Unexpected end of input"
  | some t => throw (message t)

def unexpected {α : Type} : Reading α :=
  refuse fun t => "unexpected token in expression: '" ++ t.describe ++ "'"

/-- Takes the next token if it is the given one, and tells whether it was. -/
def accept (t : Token) : Reading Bool := do
  if (← next?) = some t then skip; return true else return false

/-- Takes the given mark. -/
def expect (m : String) : Reading Unit := do
  unless ← accept (.mark m) do refuse fun _ => "expecting '" ++ m ++ "'"

/-- Takes a name, or refuses with a message. -/
def takeName (message : String) : Reading String := do
  match ← next? with
  | some (.word w) => if isName w then skip; return w else throw message
  | _ => refuse fun _ => message

/-- Takes the name of a variable that is declared. -/
def takeVariable : Reading String := do
  let name ← takeName "variable name expected"
  if name = "arguments" ∨ name = "eval" then throw "invalid variable name in strict mode"
  return name

/-- What the script says in the tokens that were taken of `before`. -/
def taken (before : List Lexeme) : Reading String := do
  let count := before.length - (← get).length
  match before.head?, (before.take count).getLast? with
  | some first, some last =>
    return String.ofList (first.text.take (first.text.length - last.rest.length))
  | _, _ => return ""

/-- Names up to a closing bracket, of which the last may stand for all further arguments, and the
tokens behind the bracket. The opening bracket stands before the tokens. -/
def parametersWithin (names : List String) : List Lexeme → Option (Parameters × List Lexeme)
  | [] => none
  | l :: ls =>
    match l.token, ls with
    | .mark ")", ls => some (⟨names.reverse, none⟩, ls)
    | .mark "...", ⟨.word w, _, _, _⟩ :: ⟨.mark ")", _, _, _⟩ :: rest =>
      if isName w then some (⟨names.reverse, some w⟩, rest) else none
    | .word w, ⟨.mark ",", _, _, _⟩ :: rest =>
      if isName w then parametersWithin (w :: names) rest else none
    | .word w, ⟨.mark ")", _, _, _⟩ :: rest =>
      if isName w then some (⟨(w :: names).reverse, none⟩, rest) else none
    | _, _ => none

/-- The parameters of a function, if the tokens begin with them and an arrow, and the tokens behind
the arrow. -/
def arrow? : List Lexeme → Option (Parameters × List Lexeme)
  | ⟨.mark "(", _, _, _⟩ :: ls =>
    match parametersWithin [] ls with
    | some (ps, ⟨.mark "=>", _, _, _⟩ :: rest) => some (ps, rest)
    | _ => none
  | ⟨.word w, _, _, _⟩ :: ⟨.mark "=>", _, _, _⟩ :: rest =>
    if isName w then some (⟨[w], none⟩, rest) else none
  | _ => none

/-- The parameters of a function that is announced by its keyword. -/
def parameters : Reading Parameters := do
  expect "("
  let ls ← get
  match parametersWithin [] ls with
  | some (ps, rest) => set rest; return ps
  | none =>
    set (ls.dropWhile fun l => match l.token with | .word w => isName w | t => t = .mark ",")
    refuse fun _ => "missing formal parameter"

/-- The end of a statement, which may be that of its line. -/
def endOfStatement : Reading Unit := do
  match ← next? with
  | none | some (.mark "\x7d") => return
  | _ => unless (← get).head?.any (·.startsLine) && (← next?) ≠ some (.mark ";") do expect ";"

mutual
/-- An expression, with assignments and functions. -/
def expression : (fuel : Nat) → Reading Expression
  | 0 => throw "stack overflow"
  | fuel + 1 => do
    let before ← get
    match arrow? before with
    | some (ps, rest) =>
      set rest
      let body ←
        if ← accept (.mark "\x7b") then block fuel []
        else pure [.giveBack (some (← expression fuel))]
      return .function "" ps true body (← taken before)
    | none =>
      let left ← operand fuel
      let left ← operators fuel 1 left
      if ← accept (.mark "=") then
        match left with
        | .name n => return .assign n ((← expression fuel).named n)
        | .member o n => return .assignMember o n (← expression fuel)
        | _ => throw "invalid assignment left-hand side"
      else return left

/-- What the operators behind `left` that bind at least as tightly as `rank` make of it. -/
def operators : (fuel : Nat) → (rank : Nat) → (left : Expression) → Reading Expression
  | 0, _, _ => throw "stack overflow"
  | fuel + 1, rank, left => do
    match ← next? with
    | some (.mark m) =>
      match Operator.ofMark? m with
      | some o =>
        if rank ≤ o.rank then
          skip
          let right ← operand fuel
          let right ← operators fuel (o.rank + 1) right
          operators fuel rank (.binary o left right)
        else return left
      | none => return left
    | _ => return left

/-- An expression without operators between two others. -/
def operand : (fuel : Nat) → Reading Expression
  | 0 => throw "stack overflow"
  | fuel + 1 => do
    if ← accept (.mark "-") then return .negate (← operand fuel)
    else if ← accept (.word "typeof") then return .typeof (← operand fuel)
    else if ← accept (.word "new") then
      let callee ← takeName "unexpected token in expression"
      let args ← if ← accept (.mark "(") then elements fuel ")" [] else pure []
      uses fuel (.construct (.name callee) args)
    else uses fuel (← primary fuel)

/-- What the calls and members behind an expression make of it. -/
def uses : (fuel : Nat) → Expression → Reading Expression
  | 0, _ => throw "stack overflow"
  | fuel + 1, e => do
    if ← accept (.mark "(") then uses fuel (.call e (← elements fuel ")" []))
    else if ← accept (.mark ".") then
      match ← next? with
      | some (.word w) => skip; uses fuel (.member e w)
      | _ => refuse fun _ => "expecting field name"
    else return e

def primary : (fuel : Nat) → Reading Expression
  | 0 => throw "stack overflow"
  | fuel + 1 => do
    let before ← get
    match ← next? with
    | some (.number n) => skip; return .literal (.number n)
    | some (.string s) => skip; return .literal (.string s)
    | some (.word "null") => skip; return .literal .null
    | some (.word "true") => skip; return .literal (.bool true)
    | some (.word "false") => skip; return .literal (.bool false)
    | some (.word "this") => skip; return .self
    | some (.word "function") =>
      skip
      let name ← match ← next? with
        | some (.word _) => takeName "function name expected"
        | _ => pure ""
      functionFrom fuel before name
    | some (.word w) => if isName w then skip; return .name w else unexpected
    | some (.mark "(") =>
      skip
      let e ← expression fuel
      expect ")"
      return e
    | some (.mark "[") => skip; return .array (← elements fuel "]" [])
    | some (.mark "\x7b") => skip; return .object (← properties fuel [])
    | _ => unexpected

/-- The function of a name that is announced by the first of the tokens `before`. -/
def functionFrom : (fuel : Nat) → (before : List Lexeme) → (name : String) → Reading Expression
  | 0, _, _ => throw "stack overflow"
  | fuel + 1, before, name => do
    let ps ← parameters
    expect "\x7b"
    let body ← block fuel []
    return .function name ps false body (← taken before)

/-- Expressions between commas up to a closing mark. Those `before` are in reverse. -/
def elements : (fuel : Nat) → (closing : String) → (before : List Expression) →
    Reading (List Expression)
  | 0, _, _ => throw "stack overflow"
  | fuel + 1, closing, before => do
    if ← accept (.mark closing) then return before.reverse
    else
      let e ← expression fuel
      if ← accept (.mark ",") then elements fuel closing (e :: before)
      else
        expect closing
        return (e :: before).reverse

/-- The properties of an object up to its closing brace. -/
def properties : (fuel : Nat) → (before : List (String × Expression)) →
    Reading (List (String × Expression))
  | 0, _ => throw "stack overflow"
  | fuel + 1, before => do
    if ← accept (.mark "\x7d") then return before.reverse
    else
      let name ← match ← next? with
        | some (.word w) => skip; pure w
        | some (.string s) => skip; pure s
        | some (.number n) => skip; pure n.text
        | _ => refuse fun _ => "invalid property name"
      expect ":"
      let e ← expression fuel
      if ← accept (.mark ",") then properties fuel ((name, e.named name) :: before)
      else
        expect "\x7d"
        return ((name, e.named name) :: before).reverse

/-- Statements up to a closing brace. -/
def block : (fuel : Nat) → (before : List Statement) → Reading (List Statement)
  | 0, _ => throw "stack overflow"
  | fuel + 1, before => do
    if ← accept (.mark "\x7d") then return before.reverse
    else
      match ← next? with
      | none => throw "Unexpected end of input"
      | some (.mark ";") => skip; block fuel before
      | _ => block fuel ((← statement fuel) :: before)

def statement : (fuel : Nat) → Reading Statement
  | 0 => throw "stack overflow"
  | fuel + 1 => do
    let before ← get
    if ← accept (.word "var") then
      let name ← takeVariable
      let e ← if ← accept (.mark "=") then some <$> expression fuel else pure none
      endOfStatement
      return .declare name (e.map (·.named name))
    else if ← accept (.word "throw") then
      let e ← expression fuel
      endOfStatement
      return .throw e
    else if ← accept (.word "return") then
      match ← next? with
      | none | some (.mark ";") | some (.mark "\x7d") => endOfStatement; return .giveBack none
      | _ =>
        let e ← expression fuel
        endOfStatement
        return .giveBack (some e)
    else if ← accept (.word "function") then
      let name ← takeName "function name expected"
      return .declare name (some (← functionFrom fuel before name))
    else
      let e ← expression fuel
      endOfStatement
      return .evaluate e
end

/-- All statements of a script. Those `before` are in reverse. -/
def statements : (fuel : Nat) → (before : List Statement) → Reading (List Statement)
  | 0, _ => throw "stack overflow"
  | fuel + 1, before => do
    match ← next? with
    | none => return before.reverse
    | some (.mark ";") => skip; statements fuel before
    | _ => statements fuel ((← statement (8 * fuel)) :: before)

end Reading

/-- The statements of a script, or a message that says where the text is none. -/
def program (text : String) : Except String (List Statement) := do
  let ts := lexemes text
  let (ss, _) ← (Reading.statements (ts.length + 1) []).run ts
  return ss

end ScriptProxy.Script
