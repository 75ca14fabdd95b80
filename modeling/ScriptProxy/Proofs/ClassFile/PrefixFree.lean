import ScriptProxy.Proofs.Bytes.Truncated
import ScriptProxy.Proofs.ClassFile.RoundTrip

/-!
# No class file is the front of another

`ofBytes_prefixFree`: a class file that is cut off anywhere is refused for want of bytes, and one with
anything behind it as having trailing bytes. Each reader of the format is shown to stream, that is, to
decide by the bytes that it has read: the lengths and counts in front of the tables say where they end.
-/

namespace ScriptProxy.ClassFile
open Outcome

/-! ### The readers of the format -/

namespace Constant

theorem streams : Streams read := by
  refine Streams.u8.bind fun tag => ?_
  have index (kind : UInt16 → Constant) : Streams (kind <$> Read.u16) := Streams.u16.map kind
  have indices (kind : UInt16 → UInt16 → Constant) :
      Streams (Read.u16 >>= fun i => kind i <$> Read.u16) := Streams.u16.bind fun i => index (kind i)
  refine .ite (fun _ => Streams.shortBlock.map _) fun _ => .ite (fun _ => Streams.u32.map _)
    fun _ => .ite (fun _ => Streams.u32.map _) fun _ => .ite (fun _ => Streams.u64.map _)
    fun _ => .ite (fun _ => Streams.u64.map _) fun _ => .ite (fun _ => index _)
    fun _ => .ite (fun _ => index _) fun _ => .ite (fun _ => indices _)
    fun _ => .ite (fun _ => indices _) fun _ => .ite (fun _ => indices _)
    fun _ => .ite (fun _ => indices _)
    fun _ => .ite (fun _ => Streams.u8.bind fun k => index (methodHandle k))
    fun _ => .ite (fun _ => index _) fun _ => .ite (fun _ => indices _)
    fun _ => .ite (fun _ => indices _) fun _ => .ite (fun _ => index _)
    fun _ => .ite (fun _ => index _) fun _ => ?_
  -- the defect of an unknown tag tells its place, but nothing was read for it
  exact .of_reads_false (.failAt _)

end Constant

namespace Pool

theorem streams_slots (n : Nat) (slots : Array (Option Constant)) : Streams (readSlots n slots) := by
  induction n using Nat.strongRecOn generalizing slots with
  | ind n ih =>
    cases n with
    | zero => exact .pure slots
    | succ n =>
      unfold readSlots
      refine Constant.streams.bind fun c => .ite (fun _ => ?_) fun _ => ih n (by omega) _
      cases n with
      | zero => exact .fail _
      | succ n => exact ih n (by omega) _

theorem streams : Streams read :=
  Streams.u16.bind fun _ => .ite (fun _ => .fail _) fun _ => (streams_slots _ _).map _

end Pool

theorem Attribute.streams : Streams Attribute.read :=
  Streams.u16.bind fun _ => Streams.longBlock.map _

theorem Attribute.streams_list : Streams Attribute.readList := Attribute.streams.table

theorem Member.streams : Streams Member.read :=
  Streams.u16.bind fun _ => Streams.u16.bind fun _ => Streams.u16.bind fun _ =>
    Attribute.streams_list.map _

theorem streams_contents : Streams readContents :=
  Streams.u16.bind fun _ => Streams.u16.bind fun _ => Pool.streams.bind fun _ =>
  Streams.u16.bind fun _ => Streams.u16.bind fun _ => Streams.u16.bind fun _ =>
  Streams.u16.table.bind fun _ => Member.streams.table.bind fun _ =>
  Member.streams.table.bind fun _ => Attribute.streams_list.map _

theorem streams_front : Streams readFront :=
  Streams.u32.bind fun _ => .ite (fun _ => .fail _) fun _ => streams_contents

/-! ### Classes -/

variable {c : ClassFile} {bs : Bytes}

theorem ofBytes_of_ne_nil (h : bs ≠ []) : ofBytes bs = (readFront.toEnd .trailingBytes).run bs := by
  rw [ofBytes, if_neg (by simpa using h), read_eq]

theorem ne_nil_of_ofBytes (h : ofBytes bs = .ok c) : bs ≠ [] := by
  rintro rfl
  cases h

theorem ofBytes_front {missing : Bytes} (h : ofBytes (bs ++ missing) = .ok c) (hbs : bs ≠ [])
    (hne : missing ≠ []) : ofBytes bs = .error .outOfBounds := by
  rw [ofBytes_of_ne_nil (by simp [hbs])] at h
  rw [ofBytes_of_ne_nil hbs, streams_front.run_front hne h]

theorem ofBytes_append {more : Bytes} (h : ofBytes bs = .ok c) (hne : more ≠ []) :
    ofBytes (bs ++ more) = .error (.malformed (.trailingBytes more.length)) := by
  have hbs := ne_nil_of_ofBytes h
  rw [ofBytes_of_ne_nil hbs] at h
  rw [ofBytes_of_ne_nil (by simp [hbs]), streams_front.run_append hne h]

/-- A class file that is cut off is out of bounds and one that is padded has trailing bytes, so no
class file is the front of another. -/
theorem ofBytes_prefixFree (h : ofBytes bs = .ok c) :
    (∀ k, 0 < k → k < bs.length → ofBytes (bs.take k) = .error .outOfBounds) ∧
    (∀ more, more ≠ [] →
      ofBytes (bs ++ more) = .error (.malformed (.trailingBytes more.length))) ∧
    ∀ other d, ofBytes other = .ok d → bs <+: other → other = bs := by
  refine ⟨fun k hk hlt => ?_, fun more hne => ofBytes_append h hne, ?_⟩
  · have hfront : bs.take k ≠ [] := by
      rw [← List.length_pos_iff, List.length_take]
      omega
    have hmissing : bs.drop k ≠ [] := by
      rw [← List.length_pos_iff, List.length_drop]
      omega
    exact ofBytes_front (by rwa [List.take_append_drop]) hfront hmissing
  · rintro _ d hd ⟨more, rfl⟩
    by_contra hne
    rw [ofBytes_append h (by simpa using hne)] at hd
    cases hd

/-- The file of `sample` may be cut off between the halves of its long constant. -/
theorem ofBytes_prefixFree_sample :
    ofBytes sampleBytes = .ok sample ∧ ofBytes (sampleBytes.take 15) = .error .outOfBounds ∧
    ofBytes (sampleBytes ++ [0, 0]) = .error (.malformed (.trailingBytes 2)) := by
  have h : ofBytes sampleBytes = .ok sample := eq_ok_of_toOption (by decide +kernel)
  exact ⟨h, (ofBytes_prefixFree h).1 15 (by decide) (by decide),
    (ofBytes_prefixFree h).2.1 [0, 0] (by decide)⟩

end ScriptProxy.ClassFile
