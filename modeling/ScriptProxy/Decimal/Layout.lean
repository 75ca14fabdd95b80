import ScriptProxy.Decimal.Shortest

/-!
# The written form of a floating-point number

`Layout` holds the choices in which the written forms differ: which numbers are written without an
exponent, whether an integer ends in `.0`, the spelling of the exponent and of infinity, whether a
negative zero shows its sign, and which digits may stand for a number.
`Layout.render` writes the shortest digits of a word under them.
-/

namespace ScriptProxy.Decimal

/-- How the digits of a number are laid out. -/
structure Layout where
  /-- A number `0.d₁d₂… · 10 ^ k` is written without an exponent if `k` lies in this range, both
  ends included. -/
  positional : Int → Bool
  /-- Written after a number that has no fraction and no exponent. -/
  integerEnd : String
  /-- Written before an exponent that is not negative. -/
  exponentPlus : String
  infinity : String
  signedZero : Bool
  candidates : Candidates

namespace Layout

/-- Digits only, never an exponent. -/
def plain : Layout := ⟨fun _ => true, "", "", "inf", true, .neighbours⟩

/-- An exponent below `10 ^ -4` and from `10 ^ 16` on, and a fraction or an exponent always. -/
def exact : Layout := ⟨fun k => -4 < k && k ≤ 16, ".0", "", "inf", true, .neighbours⟩

/-- The form in which a script writes its numbers: an exponent below `10 ^ -6` and from `10 ^ 21`
on, and a zero without a sign. -/
def script : Layout := ⟨fun k => -6 < k && k ≤ 21, "", "+", "Infinity", false, .rounded⟩

variable (l : Layout)

/-- A positive number under the layout. -/
def written (d : Numeral) : String :=
  let ds := (Nat.toDigits 10 d.digits)
  let point : Int := ds.length + d.exponent
  if l.positional point then
    if point ≤ 0 then "0." ++ String.ofList (List.replicate (-point).toNat '0' ++ ds)
    else if ds.length ≤ point.toNat then
      String.ofList (ds ++ List.replicate (point.toNat - ds.length) '0') ++ l.integerEnd
    else String.ofList (ds.take point.toNat ++ '.' :: ds.drop point.toNat)
  else
    let exponent := point - 1
    let mantissa := match ds with
      | [] => ""
      | [c] => c.toString
      | c :: r => String.ofList (c :: '.' :: r)
    mantissa ++ "e" ++ (if exponent < 0 then "" else l.exponentPlus) ++ toString exponent

/-- The number that a word of the given format stands for. -/
def render (f : BinaryFormat) (bits : Nat) : String :=
  let sign := if f.isNegative bits then "-" else ""
  match f.magnitude bits with
  | .notANumber => "NaN"
  | .infinite => sign ++ l.infinity
  | .zero => (if l.signedZero then sign else "") ++ "0" ++ l.integerEnd
  | .finite b => sign ++ l.written (b.shortest l.candidates)

end Layout

end ScriptProxy.Decimal
