import ScriptProxy.Script.Access
import ScriptProxy.Sorting

/-!
# The library: arrays

The methods of arrays. They work on any object that has a length and elements under its numbers, and
go through the elements one by one. An element that is missing is passed by most of them: `present?`
tells whether there is one.

A method that moves elements about copies them one after the other, so that what was done before an
error stays done. `copyForward` and `copyBackward` differ in which element is copied first.
-/

namespace ScriptProxy.Script

open Evaluation

/-- Whether a text comes before another or is the same, by their units of sixteen bits. -/
def comesFirst (a b : String) : Bool :=
  !(decide (Text.Utf16.units b.toList < Text.Utf16.units a.toList))

/-- The largest length that an object can have. -/
def mostElements : Nat := 9007199254740991

namespace Evaluation

/-- What a test gives for the first of some numbers for which it gives anything. -/
def firstFrom {α : Type} (test : Nat → Evaluation (Option α)) (i : Nat) :
    (count : Nat) → Evaluation (Option α)
  | 0 => return none
  | count + 1 => do
    match ← test i with
    | some a => return some a
    | none => firstFrom test (i + 1) count

/-- What a test gives for the last number below a bound for which it gives anything. -/
def lastBelow {α : Type} (test : Nat → Evaluation (Option α)) :
    (bound : Nat) → Evaluation (Option α)
  | 0 => return none
  | i + 1 => do
    match ← test i with
    | some a => return some a
    | none => lastBelow test i

/-- Throws an error unless a new array can have so many elements. -/
def checkCopied (n : Nat) : Evaluation Unit :=
  if 2147483647 < n then raise .range "invalid array length" else return

/-- Throws an error unless an object can have so many elements. -/
def checkLength (n : Nat) : Evaluation Unit :=
  if mostElements < n then raiseType "Array loo long" else return

end Evaluation

namespace Evaluator

variable (e : Evaluator)

/-- An element of an object, if it is there. -/
def present? (o : Value) (i : Nat) : Evaluation (Option Value) := do
  if ← has o (toString i) then some <$> e.element o i else return none

/-- Some elements of an object, of which any may be missing. -/
def cellsFrom (o : Value) (i count : Nat) : Evaluation (List (Option Value)) :=
  (List.range' i count).mapM (e.present? o)

/-- The elements of an object, of which any may be missing. -/
def cells (o : Value) (n : Nat) : Evaluation (List (Option Value)) := e.cellsFrom o 0 n

/-- Puts an element in its place, or takes away the one that is there. -/
def put (o : Value) (i : Nat) : Option Value → Evaluation Unit
  | some v => e.write o (toString i) v
  | none => erase o (toString i)

/-- Puts values in their places from a number on. -/
def putAll (o : Value) : (i : Nat) → List Value → Evaluation Unit
  | _, [] => return
  | i, v :: vs => do
    e.write o (toString i) v
    putAll o (i + 1) vs

/-- Gives an object a length. -/
def putLength (o : Value) (n : Nat) : Evaluation Unit := e.write o "length" (.ofNat n)

/-- Copies elements of an object to other places, the first one first. -/
def copyForward (o : Value) (source target : Nat) : (count : Nat) → Evaluation Unit
  | 0 => return
  | count + 1 => do
    e.put o target (← e.present? o source)
    copyForward o (source + 1) (target + 1) count

/-- Copies elements of an object to other places, the last one first. -/
def copyBackward (o : Value) (source target : Nat) : (count : Nat) → Evaluation Unit
  | 0 => return
  | count + 1 => do
    e.put o (target + count) (← e.present? o (source + count))
    copyBackward o source target count

/-- Exchanges two elements of an object, of which either may be missing. -/
def exchange (o : Value) (i j : Nat) : Evaluation Unit := do
  let a ← e.present? o i
  let b ← e.present? o j
  if b.isSome then
    e.put o i b
    e.put o j a
  else if a.isSome then
    e.put o i none
    e.put o j a

/-- Takes some elements away, the last one first. -/
def eraseBackward (o : Value) (i : Nat) : (count : Nat) → Evaluation Unit
  | 0 => return
  | count + 1 => do
    erase o (toString (i + count))
    eraseBackward o i count

/-- Throws an error unless a method of an object can make a new array of so many elements. -/
def checkSpecies (o : Value) (n : Nat) : Evaluation Unit := do
  if (← get).isArray o then
    let maker ← e.read o "constructor"
    if !maker.isObject && maker != .undefined then raiseType "not a function"
  if 4294967295 < n then raise .range "invalid array length"

/-- Calls a function for an element. -/
def visit (f self o : Value) (i : Nat) (v : Value) : Evaluation Value :=
  e.call f self [v, .ofNat i, o]

/-- The element of a number, with the number, if a function holds for it. -/
def matching? (f self o : Value) (i : Nat) : Evaluation (Option (Nat × Value)) := do
  let v ← e.element o i
  return if (← e.visit f self o i v).holds then some (i, v) else none

/-- Whether a function gives the wanted answer for an element, if it is there. -/
def answers? (f self o : Value) (wanted : Bool) (i : Nat) : Evaluation (Option Unit) := do
  match ← e.present? o i with
  | some v => return if (← e.visit f self o i v).holds = wanted then some () else none
  | none => return none

/-- The number of an element, if it is there and is the given one. -/
def sameNumber? (o v : Value) (i : Nat) : Evaluation (Option Nat) := do
  return if (← e.present? o i).any v.identical then some i else none

/-- A place in a list that a value stands for. It counts from the end if it is negative. -/
def place (v : Value) (n : Nat) (otherwise : Nat) : Evaluation Nat := do
  match v with
  | .undefined => return otherwise
  | v =>
    let i ← e.integer v
    return if i < 0 then (n + i).toNat else min i.toNat n

/-- How a function puts two values in order. Those that it does not tell apart stay as they were:
each comes with the number that it had. -/
def compareBy (f : Value) (a b : Value × Nat) : Evaluation Int := do
  let x ← if a.1 = b.1 then pure 0 else do
    pure (← e.number (← e.call f .undefined [a.1, b.1])).toFloat
  return if 0 < x then 1 else if x < 0 then -1 else a.2 - b.2

/-- Values in order, each with the number that it had. A function that is given puts them in order,
and their texts do if none is. -/
def inOrder (f : Value) (vs : List (Value × Nat)) : Evaluation (List (Value × Nat)) := do
  match f with
  | .undefined =>
    if vs.length < 2 then return vs
    let texts ← vs.mapM fun v => return (← e.text v.1, v)
    return (texts.mergeSort fun a b => comesFirst a.1 b.1).map (·.2)
  | f => return (← Sorting.sort (e.compareBy f) vs.toArray).toList

/-- Those of some elements that are there and are not `undefined`, each with its number. -/
def sortable (cells : List (Option Value)) : List (Value × Nat) :=
  cells.zipIdx.filterMap fun (v, i) => v.bind fun v => if v = .undefined then none else some (v, i)

/-- Puts the elements of an object in order. What is `undefined` comes last, and what is missing
behind it. An element that has its place already is not touched. -/
def sortElements (f o : Value) (n : Nat) : Evaluation Unit := do
  let cells ← e.cells o n
  let sorted ← e.inOrder f (sortable cells)
  sorted.zipIdx.forM fun ((v, i), j) => unless i = j do e.put o j (some v)
  let undefined := List.replicate (cells.count (some .undefined)) Value.undefined
  e.putAll o sorted.length undefined
  let filled := sorted.length + undefined.length
  (List.range' filled (n - filled)).forM fun i => e.put o i none

/-- A value, or the elements of an array in its place, so many levels deep. The fuel bounds how deep
arrays stand in each other. -/
def flattened : (fuel depth : Nat) → Value → Evaluation (List Value)
  | 0, _, _ => tooDeep
  | fuel + 1, depth, v => do
    if depth = 0 || !(← get).isArray v then return [v]
    let parts ← (List.range (← e.lengthOf v)).mapM fun i => do
      match ← e.present? v i with
      | some w => flattened fuel (depth - 1) w
      | none => return []
    return parts.flatten

/-- How deep arrays can stand in each other and still be flattened. -/
def deepestArray : Nat := 1000

/-- The elements of an object as texts, with a separator between them. -/
def joined (o : Value) (n : Nat) (separator : String) (text : Value → Evaluation String) :
    Evaluation Value := do
  let texts ← (List.range n).mapM fun i => do
    match (← e.element o i).present? with
    | some v => text v
    | none => return ""
  return .string (separator.intercalate texts)

/-- What a function makes of the elements of an object, one after the other. -/
def folded (f o : Value) (start : Option Value) (order : List Nat) : Evaluation Value := do
  let step (before : Option Value) (i : Nat) : Evaluation (Option Value) := do
    match before, ← e.present? o i with
    | before, none => return before
    | none, some v => return some v
    | some before, some v => some <$> e.call f .undefined [before, v, .ofNat i, o]
  match ← order.foldlM step start with
  | some v => return v
  | none => raiseType "empty array"

/-- Where elements are to be taken from an array of `n`, and how many. -/
def range (n : Nat) (vs : List Value) : Evaluation (Nat × Nat) := do
  let start ← e.place (vs.getD 0 .undefined) n 0
  match vs with
  | [] => return (start, 0)
  | [_] => return (start, n - start)
  | _ :: count :: _ =>
    let i ← e.integer count
    return (start, min i.toNat (n - start))

/-- Takes `count` elements from a place of an array of `n`, and puts others there. -/
def splice (o : Value) (n start count : Nat) (vs : List Value) : Evaluation Unit := do
  let behind := start + count
  let size := n + vs.length - count
  if vs.length < count then
    e.copyForward o behind (start + vs.length) (n - behind)
    eraseBackward o size (n - size)
  else if count < vs.length then e.copyBackward o behind (start + vs.length) (n - behind)
  e.putAll o start vs
  e.putLength o size

end Evaluator

/-- What a method of arrays does with an object of the given length. -/
def ArrayMethod.runOn (e : Evaluator) (f : ArrayMethod) (o : Value) (n : Nat) (vs : List Value) :
    Evaluation Value := do
  let first := vs.getD 0 .undefined
  let second := vs.getD 1 .undefined
  match f with
  | element =>
    let i ← e.integer first
    let i := if i < 0 then n + i else i
    if 0 ≤ i ∧ i < n then e.element o i.toNat else return .undefined
  | replaced =>
    checkCopied n
    let given ← e.integer first
    let i := if given < 0 then n + given else given
    if 0 ≤ i ∧ i < n then makeArray ((← e.elements o n).set i.toNat second)
    else raise .range s!"invalid array index: {i}"
  | concat =>
    e.checkSpecies o 0
    let parts ← (o :: vs).mapM fun v => do
      if (← get).isArray v then e.cells v (← e.lengthOf v) else return [some v]
    makeSparse parts.flatten
  | every =>
    let f ← function first
    return .bool (← firstFrom (e.answers? f second o false) 0 n).isNone
  | any =>
    let f ← function first
    return .bool (← firstFrom (e.answers? f second o true) 0 n).isSome
  | forEach =>
    let f ← function first
    (List.range n).forM fun i => do
      if let some v ← e.present? o i then
        let _ ← e.visit f second o i v
    return .undefined
  | map =>
    let f ← function first
    e.checkSpecies o n
    makeSparse (← (List.range n).mapM fun i => do
      match ← e.present? o i with
      | some v => some <$> e.visit f second o i v
      | none => return none)
  | filter =>
    let f ← function first
    e.checkSpecies o 0
    makeArray (← (List.range n).filterMapM fun i => do
      match ← e.present? o i with
      | some v => return if (← e.visit f second o i v).holds then some v else none
      | none => return none)
  | fold => e.folded (← function first) o vs[1]? (List.range n)
  | foldBack => e.folded (← function first) o vs[1]? (List.range n).reverse
  | fill =>
    let start ← e.place second n 0
    let stop ← e.place (vs.getD 2 .undefined) n n
    e.putAll o start (List.replicate (stop - start) first)
    return o
  | find => return found (← firstFrom (e.matching? (← function first) second o) 0 n)
  | findIndex => return index (← firstFrom (e.matching? (← function first) second o) 0 n)
  | findLast => return found (← lastBelow (e.matching? (← function first) second o) n)
  | findLastIndex => return index (← lastBelow (e.matching? (← function first) second o) n)
  | indexOf =>
    let start ← e.place second n 0
    return index ((← firstFrom (e.sameNumber? o first) start (n - start)).map (·, first))
  | lastIndexOf =>
    if n = 0 then return index none
    let last ← match vs[1]? with
      | some v => do
        let i ← e.integer v
        pure (if i < 0 then n + i else min i n)
      | none => pure (n - 1 : Int)
    return index ((← lastBelow (e.sameNumber? o first) (last + 1).toNat).map (·, first))
  | includes =>
    let start ← e.place second n 0
    let there ← firstFrom (fun i => do
      return if first.sameElement (← e.element o i) then some () else none) start (n - start)
    return .bool there.isSome
  | join =>
    let separator ← match first with
      | .undefined => pure ","
      | v => e.text v
    e.joined o n separator e.text
  | text =>
    let f ← e.read o "join"
    if (← get).isFunction f then e.call f o [] else return .string ((← get).objectText o)
  | localeText => e.joined o n "," fun v => do e.text (← e.invoke v "toLocaleString" [])
  | pop =>
    let v ← if n = 0 then pure .undefined else do
      let v ← e.element o (n - 1)
      e.put o (n - 1) none
      pure v
    e.putLength o (n - 1)
    return v
  | push =>
    checkLength (n + vs.length)
    e.putAll o n vs
    e.putLength o (n + vs.length)
    return .ofNat (n + vs.length)
  | shift =>
    let v ← if n = 0 then pure .undefined else do
      let v ← e.element o 0
      e.copyForward o 1 0 (n - 1)
      e.put o (n - 1) none
      pure v
    e.putLength o (n - 1)
    return v
  | unshift =>
    checkLength (n + vs.length)
    unless vs.isEmpty do e.copyBackward o 0 vs.length n
    e.putAll o 0 vs
    e.putLength o (n + vs.length)
    return .ofNat (n + vs.length)
  | reverse =>
    (List.range (n / 2)).forM fun i => e.exchange o i (n - 1 - i)
    return o
  | reversed =>
    checkCopied n
    makeArray (← e.elements o n).reverse
  | sort =>
    e.sortElements first o n
    return o
  | sorted =>
    checkCopied n
    let copy ← makeArray (← e.elements o n)
    e.sortElements first copy n
    return copy
  | slice =>
    let start ← e.place first n 0
    let stop ← e.place second n n
    e.checkSpecies o (stop - start)
    makeSparse (← e.cellsFrom o start (stop - start))
  | splice =>
    let (start, count) ← e.range n vs
    checkLength (n + (vs.drop 2).length - count)
    e.checkSpecies o count
    let taken ← makeSparse (← e.cellsFrom o start count)
    e.splice o n start count (vs.drop 2)
    return taken
  | spliced =>
    let (start, count) ← e.range n vs
    checkCopied (n + (vs.drop 2).length - count)
    let kept ← e.elements o n
    makeArray (kept.take start ++ vs.drop 2 ++ kept.drop (start + count))
  | copyWithin =>
    let target ← e.place first n 0
    let start ← e.place second n 0
    let stop ← e.place (vs.getD 2 .undefined) n n
    let count := min (stop - start) (n - target)
    if start < target ∧ target < start + count then e.copyBackward o start target count
    else e.copyForward o start target count
    return o
  | flatMap =>
    let f ← function first
    e.checkSpecies o 0
    let parts ← (List.range n).mapM fun i => do
      match ← e.present? o i with
      | some v => e.flattened Evaluator.deepestArray 1 (← e.visit f second o i v)
      | none => return []
    makeArray parts.flatten
  | flat =>
    let depth ← match first with
      | .undefined => pure 1
      | v => do pure (← e.integer v).toNat
    e.checkSpecies o 0
    let parts ← (List.range n).mapM fun i => do
      match ← e.present? o i with
      | some v => e.flattened Evaluator.deepestArray depth v
      | none => return []
    makeArray parts.flatten
  | iterate part => add (.ofProperties (.cursor (some o) 0 part) (some Base.object.place) [])
where
  /-- The number of an element that was found, or a number that says that none was. -/
  index : Option (Nat × Value) → Value
    | some (i, _) => .ofNat i
    | none => .number (.int (-1))
  /-- An element that was found. -/
  found : Option (Nat × Value) → Value
    | some (_, v) => v
    | none => .undefined

/-- What a method of arrays does. What puts elements in order looks at the function for it before
anything else. -/
def ArrayMethod.run (e : Evaluator) (f : ArrayMethod) (self : Value) (vs : List Value) :
    Evaluation Value := do
  if f matches sort | sorted && vs.getD 0 .undefined != .undefined then
    let _ ← function (vs.getD 0 .undefined)
  let o ← toObject self
  f.runOn e o (← e.lengthOf o) vs

/-- What a function that is about arrays does. -/
def ArrayFunction.run (f : ArrayFunction) (vs : List Value) : Evaluation Value := do
  match f with
  | isArray => return .bool ((← get).isArray (vs.getD 0 .undefined))
  | ofElements => makeArray vs

end ScriptProxy.Script
