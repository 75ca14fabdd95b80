import Mathlib.Data.List.Chain
import ScriptProxy.Bytes.Request
import ScriptProxy.Proofs.Bytes.Form

/-!
# Where a cursor stands between requests

A request is `Served` if it is answered exactly when the bytes that it takes are there, passes just
these then, and otherwise runs out of bounds where it is. A request `Fits` if the position and the
number of these bytes have a sum that is a word, and then the words make no difference to exact
numbers (`bytes_eq_block`, `counted_eq_block`): it is served. Numbers and counts always fit, since no
data is so long that they could not (`fits_of_argument`). With a length of the caller's that does not
fit, the request `BreaksOff`. `served_trace` puts this together for all requests of a run.
-/

namespace ScriptProxy.Cursor
open Outcome

variable {α β : Type} {c d : Cursor} {n : Nat} {give : Bytes → α}

/-- The greatest number of bytes that one object in memory can have. -/
def maxLength : Nat := 9223372036854775807

namespace Request

/-- The bytes of the count in front of what is asked for, if there is one. -/
def countWidth : Request → Nat
  | shortBlock => 2
  | longBlock => 4
  | _ => 0

/-- The number of bytes that a request takes at a cursor. -/
def length (c : Cursor) : Request → Nat
  | advance n | bytes n => n.toNat
  | number t => t.width.toNat
  | r => r.countWidth + BigEndian.value (c.rest.take r.countWidth)

/-- What the bytes that it takes give for an answer. -/
def answer (bs : Bytes) : Request → Answer
  | advance _ => .moved
  | number t => .number (t.value bs)
  | r => .bytes (bs.drop r.countWidth)

/-- The length that the caller names. -/
def argument? : Request → Option UInt64
  | advance n | bytes n => some n
  | _ => none

end Request

/-- A request and what came of it. -/
structure Event where
  before : Cursor
  request : Request
  result : EStateM.Result Failure Cursor Answer

def Request.event (r : Request) (c : Cursor) : Event := ⟨c, r, r.perform c⟩

namespace Event

def after (e : Event) : Cursor := left e.result

/-- The request ends as it should. -/
structure Served (e : Event) : Prop where
  succeeds_iff :
    (∃ a d, e.result = .ok a d) ↔ e.request.length e.before ≤ e.before.remaining
  passes : ∀ a d, e.result = .ok a d →
    ∃ bs, bs.length = e.request.length e.before ∧ a = e.request.answer bs ∧ e.before.Passes bs d
  /-- A count is passed even if what it counts is not there. Requests without one stay. -/
  stays : ∀ f d, e.result = .error f d → f = .outOfBounds ∧
    (e.before.remaining < e.request.countWidth ∧ d = e.before ∨
      ∃ count, count.length = e.request.countWidth ∧ e.before.Passes count d)

/-- The sum of the position and the length is a word. -/
def Fits (e : Event) : Prop := e.before.pos + e.request.length e.before < UInt64.size

/-- The addition of the position and the length breaks the request off where the cursor is. -/
def BreaksOff (e : Event) : Prop := e.result = .error .addOverflow e.before

end Event

/-! ### Steps whose sum is a word -/

/-- The ways in which a step for the next `n` bytes can end. -/
inductive Fetches (n : Nat) (give : Bytes → α) (c : Cursor) : EStateM.Result Failure Cursor α → Prop
  | ok {bs : Bytes} {d : Cursor} (length : bs.length = n) (passes : c.Passes bs d) :
      Fetches n give c (.ok (give bs) d)
  | error (lt : c.remaining < n) : Fetches n give c (.error .outOfBounds c)

theorem Fetches.map (f : α → β) {step : Read α} (h : Fetches n give c (step c)) :
    Fetches n (f ∘ give) c ((f <$> step) c) := by
  show Fetches _ _ _ (EStateM.map f step c)
  unfold EStateM.map
  generalize step c = out at h
  cases h with
  | ok hl hp => exact .ok hl hp
  | error hlt => exact .error hlt

theorem fetches_block (n : Nat) (c : Cursor) : Fetches n id c (Read.block n c) := by
  cases hblock : Read.block n c with
  | ok bs d =>
    obtain ⟨hl, hrest, hdata, -⟩ := Read.block_eq_ok.1 hblock
    exact .ok hl ⟨hdata, hrest⟩
  | error f d =>
    obtain ⟨hlt, rfl, rfl⟩ := Read.block_eq_error.1 hblock
    exact .error hlt

theorem fetches_bytes {count : UInt64} (h : c.pos + count.toNat < UInt64.size) :
    Fetches count.toNat id c (Read.bytes count c) := by
  rw [Read.bytes_eq_block h]
  exact fetches_block _ _

theorem fetches_advance {step : UInt64} (h : c.pos + step.toNat < UInt64.size) :
    Fetches step.toNat (fun _ => ()) c (Read.advance step c) := by
  rw [Read.advance_eq_bytes]
  exact (fetches_bytes h).map fun _ => ()

theorem fits_of_le (hc : c.data.size ≤ maxLength) (hn : n ≤ maxLength + 1) :
    c.pos + n < UInt64.size := by
  have hpos := c.pos_le
  rw [maxLength] at hc hn
  show _ < 18446744073709551616
  omega

theorem fetches_number (hc : c.data.size ≤ maxLength) (t : NumberType) :
    Fetches t.width.toNat t.value c (Read.ofType t c) := by
  have hwidth := t.width_le
  exact (fetches_bytes (fits_of_le hc (by rw [maxLength]; omega))).map t.value

/-! ### Counts -/

/-- The ways in which a step for a count and the bytes that it counts can end. -/
inductive FetchesCounted (width : Nat) (c : Cursor) : EStateM.Result Failure Cursor Bytes → Prop
  | ok {count body : Bytes} {d : Cursor} (length : count.length = width)
      (counts : body.length = BigEndian.value count) (passes : c.Passes (count ++ body) d) :
      FetchesCounted width c (.ok body d)
  | cutOff {count : Bytes} {d : Cursor} (length : count.length = width)
      (passes : c.Passes count d) (lt : d.remaining < BigEndian.value count) :
      FetchesCounted width c (.error .outOfBounds d)
  | noCount (lt : c.remaining < width) :
      FetchesCounted width c (.error .outOfBounds c)

theorem value_lt_of_length {bs : Bytes} (hl : bs.length ≤ 4) : BigEndian.value bs < 4294967296 := by
  have hmono : Nat.pow 256 bs.length ≤ Nat.pow 256 4 := Nat.pow_le_pow_right (by decide) hl
  exact Nat.lt_of_lt_of_le (BigEndian.value_lt bs) hmono

/-- The count is not signed, and so short that whatever it counts has an end that is a word. -/
theorem counted_eq_block (t : NumberType) (hc : c.data.size ≤ maxLength) (ht : t.isSigned = false)
    (hwidth : t.width.toNat ≤ 4) :
    Read.counted t c = (Read.number t.width.toNat >>= Read.block) c := by
  have hstart : c.pos + t.width.toNat < UInt64.size := fits_of_le hc (by rw [maxLength]; omega)
  have hfirst := Read.bytes_eq_block hstart
  show EStateM.bind (EStateM.map t.value (Read.bytes t.width)) _ c =
    EStateM.bind (EStateM.map BigEndian.value _) Read.block c
  unfold EStateM.bind EStateM.map
  rw [hfirst]
  cases hblock : Read.block t.width.toNat c with
  | error f d => rfl
  | ok count m =>
    obtain ⟨hl, -, hdata, -⟩ := Read.block_eq_ok.1 hblock
    have hvalue := value_lt_of_length (hl ▸ hwidth)
    -- the count is less than 2^32, so its word is exact, and the end of what it counts is a word
    have hword : (UInt64.ofNat (t.value count).toNat).toNat = BigEndian.value count := by
      rw [NumberType.value_of_unsigned ht, Int.toNat_natCast]
      exact UInt64.toNat_ofNat_of_lt (Nat.lt_trans hvalue (by decide))
    have hfits : m.pos + BigEndian.value count < UInt64.size :=
      fits_of_le (hdata ▸ hc) (by rw [maxLength]; omega)
    show Read.bytes _ m = Read.block (BigEndian.value count) m
    rw [← hword] at hfits ⊢
    exact Read.bytes_eq_block hfits

/-- A count that is kept in a word of its own width is still the same. -/
theorem number_bind_block {width : Nat} {kept : Nat → Nat}
    (hkept : ∀ n < Nat.pow 256 width, kept n = n) :
    (Read.number width >>= fun n => Read.block (kept n)) = Read.number width >>= Read.block := by
  funext c
  show EStateM.bind (Read.number width) _ c = EStateM.bind _ Read.block c
  unfold EStateM.bind
  cases hnumber : Read.number width c with
  | error f d => rfl
  | ok n m =>
    obtain ⟨bs, ⟨hlt, -⟩, -⟩ := (Reads.number width c n m).1 hnumber
    show Read.block (kept n) m = Read.block n m
    rw [hkept n hlt]

theorem shortBlock_eq : Read.shortBlock = Read.number 2 >>= Read.block :=
  (bind_map_left ..).trans (number_bind_block fun _ hlt => UInt16.toNat_ofNat_of_lt' hlt)

theorem longBlock_eq : Read.longBlock = Read.number 4 >>= Read.block :=
  (bind_map_left ..).trans (number_bind_block fun _ hlt => UInt32.toNat_ofNat_of_lt' hlt)

/-- The blocks that the readers of class files are made of are what these requests ask for. -/
theorem counted_eq_shortBlock (hc : c.data.size ≤ maxLength) :
    Read.counted .u16 c = Read.shortBlock c :=
  shortBlock_eq ▸ counted_eq_block .u16 hc rfl (by decide)

theorem counted_eq_longBlock (hc : c.data.size ≤ maxLength) :
    Read.counted .u32 c = Read.longBlock c :=
  longBlock_eq ▸ counted_eq_block .u32 hc rfl (by decide)

theorem fetchesCounted_block (width : Nat) (c : Cursor) :
    FetchesCounted width c ((Read.number width >>= Read.block) c) := by
  show FetchesCounted _ _ (EStateM.bind (EStateM.map BigEndian.value _) Read.block c)
  unfold EStateM.bind EStateM.map
  cases hfirst : Read.block width c with
  | error f d =>
    obtain ⟨hlt, rfl, rfl⟩ := Read.block_eq_error.1 hfirst
    exact .noCount hlt
  | ok count m =>
    obtain ⟨hl, hrest, hdata, -⟩ := Read.block_eq_ok.1 hfirst
    have hp : c.Passes count m := ⟨hdata, hrest⟩
    have hrest := fetches_block (BigEndian.value count) m
    show FetchesCounted _ _ (Read.block (BigEndian.value count) m)
    generalize Read.block (BigEndian.value count) m = out at hrest
    cases hrest with
    | ok hbody hp' => exact .ok hl hbody (hp.append hp')
    | error hlt => exact .cutOff hl hp hlt

/-! ### Single requests -/

namespace Event
variable {e : Event} {r : Request} {bs : Bytes} {out : EStateM.Result Failure Cursor Answer}

theorem Served.ok (hl : bs.length = r.length c) (hp : c.Passes bs d) :
    Served ⟨c, r, .ok (r.answer bs) d⟩ := by
  have hr := hp.remaining
  refine ⟨⟨fun _ => ?_, fun _ => ⟨_, d, rfl⟩⟩, ?_, ?_⟩
  · show r.length c ≤ c.remaining
    omega
  · rintro _ _ ⟨⟩
    exact ⟨bs, hl, rfl, hp⟩
  · rintro _ _ ⟨⟩

theorem Served.error (hlt : c.remaining < r.length c)
    (hd : c.remaining < r.countWidth ∧ d = c ∨
      ∃ count, count.length = r.countWidth ∧ c.Passes count d) :
    Served ⟨c, r, .error .outOfBounds d⟩ := by
  refine ⟨⟨?_, fun hle => absurd hle (Nat.not_le.2 hlt)⟩, ?_, ?_⟩
  · rintro ⟨_, _, ⟨⟩⟩
  · rintro _ _ ⟨⟩
  · rintro _ _ ⟨⟩
    exact ⟨rfl, hd⟩

theorem served_of_fetches (hr : r.countWidth = 0) (h : Fetches (r.length c) r.answer c out) :
    Served ⟨c, r, out⟩ := by
  cases h with
  | ok hl hp => exact .ok hl hp
  | error hlt => exact .error hlt (.inr ⟨[], hr.symm, passes_nil.2 rfl⟩)

theorem served_of_fetchesCounted
    (hlength : r.length c = r.countWidth + BigEndian.value (c.rest.take r.countWidth))
    (hanswer : ∀ bs, r.answer bs = .bytes (bs.drop r.countWidth)) {step : Read Bytes}
    (h : FetchesCounted r.countWidth c (step c)) : Served ⟨c, r, (Answer.bytes <$> step) c⟩ := by
  have htake {count rest : Bytes} (hl : count.length = r.countWidth) (h : c.rest = count ++ rest) :
      r.length c = r.countWidth + BigEndian.value count := by
    rw [hlength, h, ← hl, List.take_left]
  show Served ⟨c, r, EStateM.map _ _ _⟩
  unfold EStateM.map
  generalize step c = out at h
  cases h with
  | @ok count body d hl hbody hp =>
    have hlen := htake hl (hp.rest.trans (List.append_assoc ..))
    have hbytes : Answer.bytes body = r.answer (count ++ body) := by
      rw [hanswer, ← hl, List.drop_left]
    show Served ⟨c, r, .ok (.bytes body) d⟩
    rw [hbytes]
    exact .ok (by rw [List.length_append]; omega) hp
  | @cutOff count d hl hp hlt =>
    have hlen := htake hl hp.rest
    have hremaining := hp.remaining
    exact .error (by omega) (.inr ⟨count, hl, hp⟩)
  | noCount hlt => exact .error (by omega) (.inl ⟨hlt, rfl⟩)

/-- Whoever asks for no more than half of the words need not look at the position. -/
theorem fits_of_argument (hc : c.data.size ≤ maxLength)
    (h : ∀ n ∈ r.argument?, n.toNat ≤ maxLength + 1) : (r.event c).Fits := by
  refine fits_of_le hc ?_
  cases r with
  | advance n | bytes n => exact h n rfl
  | number t =>
    have hwidth := t.width_le
    show t.width.toNat ≤ _
    rw [maxLength]
    omega
  | shortBlock | longBlock =>
    have hshort := value_lt_of_length (Nat.le_trans (List.length_take_le 2 c.rest) (by decide))
    have hlong := value_lt_of_length (List.length_take_le 4 c.rest)
    dsimp only [Request.event, Request.length, Request.countWidth]
    rw [maxLength]
    omega

theorem served_of_fits (hc : c.data.size ≤ maxLength) (h : (r.event c).Fits) :
    (r.event c).Served := by
  cases r with
  | advance step => exact served_of_fetches rfl ((fetches_advance h).map fun _ => Answer.moved)
  | number t => exact served_of_fetches rfl ((fetches_number hc t).map Answer.number)
  | bytes count => exact served_of_fetches rfl ((fetches_bytes h).map Answer.bytes)
  | shortBlock =>
    have hcounted := fetchesCounted_block 2 c
    rw [← shortBlock_eq, ← counted_eq_shortBlock hc] at hcounted
    exact served_of_fetchesCounted rfl (fun _ => rfl) hcounted
  | longBlock =>
    have hcounted := fetchesCounted_block 4 c
    rw [← longBlock_eq, ← counted_eq_longBlock hc] at hcounted
    exact served_of_fetchesCounted rfl (fun _ => rfl) hcounted

theorem breaksOff_of_not_fits (hc : c.data.size ≤ maxLength) (h : ¬ (r.event c).Fits) :
    (r.event c).BreaksOff := by
  have hsize {n : Nat} (hn : r.length c = n) : UInt64.size ≤ c.pos + n := hn ▸ Nat.not_lt.1 h
  cases r with
  | advance step =>
    show EStateM.map _ (Read.advance step) c = .error .addOverflow c
    rw [EStateM.map, Read.advance_of_size_le (hsize rfl)]
  | bytes count =>
    show EStateM.map _ (Read.bytes count) c = .error .addOverflow c
    rw [EStateM.map, Read.bytes_of_size_le (hsize rfl)]
  | number t | shortBlock | longBlock => exact absurd (fits_of_argument hc (by rintro _ ⟨⟩)) h

/-- Whether it is answered or not, a request that is served moves forward if at all. -/
theorem Served.exists_passes (h : e.Served) : ∃ bs, e.before.Passes bs e.after := by
  obtain ⟨c, r, out⟩ := e
  cases out with
  | ok a d =>
    obtain ⟨bs, -, -, hp⟩ := h.passes a d rfl
    exact ⟨bs, hp⟩
  | error s d =>
    rcases (h.stays s d rfl).2 with ⟨-, rfl⟩ | ⟨count, -, hp⟩
    · exact ⟨[], passes_nil.2 rfl⟩
    · exact ⟨count, hp⟩

theorem BreaksOff.after_eq (h : e.BreaksOff) : e.after = e.before := by
  rw [after, h]
  rfl

theorem BreaksOff.not_served (h : e.BreaksOff) : ¬ e.Served := by
  intro hs
  cases (hs.stays _ _ h).1

end Event

/-! ### Runs -/

/-- The requests of a run, one after the other, whatever has become of those before. -/
def trace : List Request → Cursor → List Event
  | [], _ => []
  | r :: rs, c => r.event c :: trace rs (r.event c).after

/-- Where the cursor stands, from the start of a run to its end. -/
def positions (rs : List Request) (c : Cursor) : List Nat :=
  c.pos :: (trace rs c).map (·.after.pos)

section
variable {e : Event} {r : Request} {rs : List Request}

/-- However it ends, a request moves the cursor forward if at all. -/
theorem exists_passes_event (hc : c.data.size ≤ maxLength) (r : Request) :
    ∃ bs, c.Passes bs (r.event c).after := by
  by_cases h : (r.event c).Fits
  · exact (Event.served_of_fits hc h).exists_passes
  · have hstays : (r.event c).after = c := (Event.breaksOff_of_not_fits hc h).after_eq
    exact ⟨[], passes_nil.2 hstays⟩

/-- Every request of a run is made on the data that the run begins with. -/
theorem exists_of_mem_trace (hc : c.data.size ≤ maxLength) (h : e ∈ trace rs c) :
    ∃ (r : Request) (d : Cursor), e = r.event d ∧ d.data = c.data := by
  -- on the requests, with any cursor: its position changes, but not how long its data is
  induction rs generalizing c with
  | nil => cases h
  | cons r rs ih =>
    obtain ⟨passed, hpasses⟩ := exists_passes_event hc r
    have hdata := hpasses.data
    rcases List.mem_cons.1 h with rfl | h
    · exact ⟨r, c, rfl, rfl⟩
    · obtain ⟨r', d, he, hd⟩ := ih (hdata ▸ hc) h
      exact ⟨r', d, he, hd.trans hdata⟩

theorem pairwise_positions (hc : c.data.size ≤ maxLength) (rs : List Request) :
    (positions rs c).Pairwise (· ≤ ·) := by
  rw [← List.isChain_iff_pairwise]
  induction rs generalizing c with
  | nil => exact .singleton _
  | cons r rs ih =>
    obtain ⟨passed, hpasses⟩ := exists_passes_event hc r
    have hle : c.pos ≤ (r.event c).after.pos := Nat.le.intro hpasses.pos.symm
    have hrest := ih (hpasses.data ▸ hc : (r.event c).after.data.size ≤ maxLength)
    exact List.isChain_cons_cons.2 ⟨hle, hrest⟩

/-- Whatever is asked of a cursor, it stays within the data and never goes back. A request with a length
of at most half of the words, or none, always fits, and the requests that fit are just those that are
served; the others break off where the cursor is. -/
theorem served_trace {bs : Bytes} (h : bs.length ≤ maxLength) (rs : List Request) :
    (∀ e ∈ trace rs (ofList bs),
      (e.after.data.toList = bs ∧ e.after.pos ≤ bs.length) ∧
      ((∀ n ∈ e.request.argument?, n.toNat ≤ maxLength + 1) → e.Fits) ∧
      (e.Served ↔ e.Fits) ∧ (e.BreaksOff ↔ ¬ e.Fits)) ∧
    (positions rs (ofList bs)).Pairwise (· ≤ ·) := by
  have hbs : (ofList bs).data.size ≤ maxLength := h
  refine ⟨fun e he => ?_, pairwise_positions hbs rs⟩
  obtain ⟨r, c, rfl, hdata⟩ := exists_of_mem_trace hbs he
  have hc : c.data.size ≤ maxLength := hdata ▸ hbs
  obtain ⟨passed, hpasses⟩ := exists_passes_event hc r
  have hafter : (r.event c).after.data = bs.toArray := hpasses.data.trans hdata
  have hbreaks : ¬ (r.event c).Fits → (r.event c).BreaksOff := Event.breaksOff_of_not_fits hc
  have hserved : (r.event c).Fits → (r.event c).Served := Event.served_of_fits hc
  refine ⟨⟨by rw [hafter], ?_⟩, Event.fits_of_argument hc, ⟨fun hs => ?_, hserved⟩,
    fun hb hf => hb.not_served (hserved hf), hbreaks⟩
  · have hle := (r.event c).after.pos_le
    rwa [hafter] at hle
  · exact Classical.not_not.1 fun hf => (hbreaks hf).not_served hs

/-- Behind the first of two bytes, the greatest step there is breaks off. -/
theorem served_trace_greatest :
    let bs : Bytes := [0, 0]
    let rs := [.number .u8, .advance 18446744073709551615]
    bs.length ≤ maxLength ∧ positions rs (ofList bs) = [0, 1, 1] ∧
      ∃ e ∈ trace rs (ofList bs), ¬ e.Served ∧ e.BreaksOff := by
  intro bs rs
  have hlength : bs.length ≤ maxLength := by decide
  have hpositions : positions rs (ofList bs) = [0, 1, 1] := by decide +kernel
  let c := ((Request.number .u8).event (ofList bs)).after
  have he : (Request.advance 18446744073709551615).event c ∈ trace rs (ofList bs) :=
    .tail _ (.head _)
  have hfits : ¬ ((Request.advance 18446744073709551615).event c).Fits := by
    show ¬ 1 + 18446744073709551615 < 18446744073709551616
    decide
  obtain ⟨hall, -⟩ := served_trace hlength rs
  obtain ⟨-, -, hserved, hbreaks⟩ := hall _ he
  exact ⟨hlength, hpositions, _, he, mt hserved.1 hfits, hbreaks.2 hfits⟩

/-- Of the five bytes that are counted there is one. -/
example : positions [.shortBlock, .advance 2, .bytes 1] (ofList [0, 5, 104]) = [0, 2, 2, 3] := by
  decide +kernel

end

end ScriptProxy.Cursor
