/-!
# Sorting by any comparison

`sort` puts an array in order by exchanging elements. The comparison is a computation, and need not
be an order at all. What comes out then depends on which elements are compared, and when: a few
elements are sorted by insertion, and more of them are parted first, into those below a pivot, those
equal to it and those above it.

A comparison gives a negative number, zero or a positive one.
-/

namespace ScriptProxy.Sorting

/-- A part of an array: where it begins, and how many elements it has. -/
structure Segment where
  start : Nat
  size : Nat

/-- How far the parting of a segment has come. The elements up to `equalStart` and from `equalStop`
on equal the pivot, those from there up to `low` are below it, and those from `high` on above it. -/
structure Parting (α : Type) where
  elements : Array α
  equalStart : Nat
  low : Nat
  high : Nat
  equalStop : Nat

section

variable {α : Type}

/-- Exchanges two blocks of an array that have the same size. -/
def swapBlocks (i j : Nat) : (size : Nat) → Array α → Array α
  | 0, a => a
  | size + 1, a => swapBlocks (i + 1) (j + 1) size (a.swapIfInBounds i j)

variable {m : Type → Type} [Monad m] (compare : α → α → m Int)

/-- Compares two elements of an array. -/
def compareAt (a : Array α) (i j : Nat) : m Int :=
  match a[i]?, a[j]? with
  | some x, some y => compare x y
  | _, _ => pure 0

/-- Moves an element in front of those before it that come after it, as far as `start`. -/
def sink (start : Nat) : (i : Nat) → Array α → m (Array α)
  | 0, a => pure a
  | i + 1, a => do
    if i + 1 ≤ start then pure a
    else if 0 < (← compareAt compare a i (i + 1)) then
      sink start i (a.swapIfInBounds i (i + 1))
    else pure a

/-- Sorts a segment by insertion. -/
def insertionSort (s : Segment) (a : Array α) : m (Array α) :=
  (List.range' (s.start + 1) (s.size - 1)).foldlM (fun a i => sink compare s.start i a) a

/-- The place of the one of three elements that is between the others. -/
def middle (a : Array α) (i j k : Nat) : m Nat := do
  if (← compareAt compare a i j) < 0 then
    if (← compareAt compare a j k) < 0 then pure j
    else if (← compareAt compare a i k) < 0 then pure k
    else pure i
  else
    if 0 < (← compareAt compare a j k) then pure j
    else if (← compareAt compare a i k) < 0 then pure i
    else pure k

/-- Passes the elements that are not above the pivot, from the lower end. There are at most `fuel`
of them. -/
def ascend (pivot : Nat) : (fuel : Nat) → Parting α → m (Parting α)
  | 0, p => pure p
  | fuel + 1, p => do
    if p.high ≤ p.low then pure p
    else
      let c ← compareAt compare p.elements pivot p.low
      if c < 0 then pure p
      else if c = 0 then
        ascend pivot fuel { p with
          elements := p.elements.swapIfInBounds p.equalStart p.low
          equalStart := p.equalStart + 1
          low := p.low + 1 }
      else ascend pivot fuel { p with low := p.low + 1 }

/-- Passes the elements that are not below the pivot, from the upper end. There are at most `fuel`
of them. -/
def descend (pivot : Nat) : (fuel : Nat) → Parting α → m (Parting α)
  | 0, p => pure p
  | fuel + 1, p => do
    let p := { p with high := p.high - 1 }
    if p.high ≤ p.low then pure p
    else
      let c ← compareAt compare p.elements pivot p.high
      if 0 < c then pure p
      else if c = 0 then
        descend pivot fuel { p with
          elements := p.elements.swapIfInBounds (p.equalStop - 1) p.high
          equalStop := p.equalStop - 1 }
      else descend pivot fuel p

/-- Exchanges elements above the pivot for elements below it, until the two ends meet. -/
def parted (pivot : Nat) : (fuel : Nat) → Parting α → m (Parting α)
  | 0, p => pure p
  | fuel + 1, p => do
    let p ← ascend compare pivot (p.high - p.low) p
    let p ← descend compare pivot (p.high - p.low + 1) p
    if p.high ≤ p.low then pure p
    else parted pivot fuel { p with
      elements := p.elements.swapIfInBounds p.low p.high
      low := p.low + 1 }

/-- Parts a segment by a pivot. The elements that equal it end up in the middle; the segments are
those below them and above them. -/
def part (s : Segment) (a : Array α) : m (Segment × Segment × Array α) := do
  let quarter := s.size / 4
  let pivot ← middle compare a (s.start + quarter) (s.start + 2 * quarter) (s.start + 3 * quarter)
  let stop := s.start + s.size
  let p ← parted compare s.start s.size
    ⟨a.swapIfInBounds s.start pivot, s.start + 1, s.start + 1, stop, stop⟩
  let below := p.low - p.equalStart
  let above := p.equalStop - p.low
  let first := min (p.equalStart - s.start) below
  let last := min (stop - p.equalStop) above
  let a := swapBlocks s.start (p.low - first) first p.elements
  return (⟨s.start, below⟩, ⟨stop - above, above⟩, swapBlocks p.low (stop - last) last a)

/-- How many elements are sorted by insertion. -/
def fewest : Nat := 6

/-- Sorts segments, one after the other. Of two segments that a pivot has parted, the one that is
not the larger comes first. -/
def sortSegments : (fuel : Nat) → List Segment → Array α → m (Array α)
  | 0, _, a | _, [], a => pure a
  | fuel + 1, s :: rest, a => do
    if s.size ≤ fewest then sortSegments fuel rest (← insertionSort compare s a)
    else
      let (below, above, a) ← part compare s a
      sortSegments fuel
        (if above.size < below.size then above :: below :: rest else below :: above :: rest) a

/-- An array in order. Each pivot takes an element out of the segments, of which there are less than
twice as many as elements. -/
def sort (a : Array α) : m (Array α) := sortSegments compare (2 * a.size + 1) [⟨0, a.size⟩] a

end

end ScriptProxy.Sorting
