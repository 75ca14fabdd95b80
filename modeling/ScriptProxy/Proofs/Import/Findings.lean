import Mathlib.Data.List.TakeWhile
import ScriptProxy.Proofs.Import.Declaration
import ScriptProxy.Proofs.OrderedMap

/-!
# What a scan finds

`scan_eq_ok`: a scan goes through the native methods of a class in order; the bindings that they
declare are put into the registry one after the other, and the problems are listed. If no two native
methods have the same name and descriptor, each of them ends up where its annotations say, and
nowhere else: `scan_sorts`.
-/

namespace ScriptProxy

namespace Import

open ClassFile Outcome

/-! ### Keys -/

/-- The name and the descriptor of a method, if they can be read. -/
def keyOf? (c : ClassFile) (m : Member) : Option MethodKey := do
  return ⟨← (c.methodName m).toOption, ← (c.methodDescriptor m).toOption⟩

def nativeMethods (c : ClassFile) : List Member := c.methods.filter (·.access.isNative)

/-- The names and descriptors of the native methods, in order. -/
def nativeKeys (c : ClassFile) : List MethodKey := (nativeMethods c).filterMap (keyOf? c)

theorem keyOf?_eq_some {c : ClassFile} {m : Member} {key : MethodKey} : keyOf? c m = some key ↔
    c.pool.text m.name = .ok key.name ∧ c.pool.text m.descriptor = .ok key.descriptor := by
  obtain ⟨name, descriptor⟩ := key
  unfold keyOf? ClassFile.methodName ClassFile.methodDescriptor
  cases c.pool.text m.name <;> cases c.pool.text m.descriptor <;> simp [Except.toOption]

theorem eq_of_filterMap_nodup {α β : Type} {f : α → Option β} {l : List α}
    (h : (l.filterMap f).Nodup) {a a' : α} {b : β} (ha : a ∈ l) (ha' : a' ∈ l) (hb : f a = some b)
    (hb' : f a' = some b) : a = a' := by
  induction l with
  | nil => cases ha
  | cons x l ih =>
    have hrest : (l.filterMap f).Nodup := h.sublist ((List.sublist_cons_self x l).filterMap f)
    have hfirst {y : α} (hx : f x = some b) (hy : y ∈ l) (hyb : f y = some b) : False := by
      rw [List.filterMap_cons, hx] at h
      exact (List.nodup_cons.1 h).1 (List.mem_filterMap.2 ⟨y, hy, hyb⟩)
    rcases List.mem_cons.1 ha with rfl | hal
    · rcases List.mem_cons.1 ha' with rfl | hal'
      · rfl
      · exact (hfirst hb hal' hb').elim
    · rcases List.mem_cons.1 ha' with rfl | hal'
      · exact (hfirst hb' hal hb).elim
      · exact ih hrest hal hal'

theorem filterMap_sublist_filterMap {α β : Type} {f g : α → Option β}
    (h : ∀ a b, f a = some b → g a = some b) (l : List α) :
    (l.filterMap f).Sublist (l.filterMap g) := by
  induction l with
  | nil => exact .refl _
  | cons a l ih =>
    rw [List.filterMap_cons, List.filterMap_cons]
    cases hf : f a with
    | none =>
      cases g a with
      | none => exact ih
      | some b => exact ih.cons b
    | some b =>
      rw [h a b hf]
      exact ih.cons_cons b

/-! ### One method after the other -/

section
variable (c : ClassFile) (className marker : String)

/-- What the annotations of a method declare, if its name can be read. -/
def declarationOf? (m : Member) : Option (MethodKey × Except Problem (Option Binding)) :=
  (keyOf? c m).map fun key =>
    (key, declaredBinding c.pool marker (simpleNameOf className) key.name m)

/-- The binding that a method declares, with the method. -/
def bindingOf? (m : Member) : Option (MethodKey × Binding) :=
  match declarationOf? c className marker m with
  | some (key, .ok (some b)) => some (key, b)
  | _ => none

/-- The report of a method that cannot be understood. -/
def reportOf? (m : Member) : Option Diagnostic :=
  match declarationOf? c className marker m with
  | some (key, .error problem) => some ⟨className, key, problem⟩
  | _ => none

end

section
variable {c : ClassFile} {className marker : String} {found found' : Findings}

theorem scanMethod_eq_ok {m : Member} (h : scanMethod c className marker found m = .ok found') :
    (∃ key, keyOf? c m = some key) ∧
      found'.registry.toOrderedMap =
        found.registry.toOrderedMap.insertAll (bindingOf? c className marker m).toList ∧
      found'.diagnostics = found.diagnostics ++ (reportOf? c className marker m).toList := by
  obtain ⟨name, hn, h⟩ := bind_eq_ok.1 h
  obtain ⟨descriptor, hd, h⟩ := bind_eq_ok.1 h
  have hkey : keyOf? c m = some ⟨name, descriptor⟩ := keyOf?_eq_some.2 ⟨hn, hd⟩
  refine ⟨⟨_, hkey⟩, ?_⟩
  rw [bindingOf?, reportOf?, declarationOf?, hkey, Option.map_some]
  dsimp only at h ⊢
  split at h
  all_goals
    next hdec =>
    cases h
    simp [hdec, OrderedMap.insertAll, Registry.toOrderedMap_insert]

theorem foldlM_scanMethod_eq_ok {ms : List Member}
    (h : ms.foldlM (scanMethod c className marker) found = .ok found') :
    (∀ m ∈ ms, ∃ key, keyOf? c m = some key) ∧
      found'.registry.toOrderedMap =
        found.registry.toOrderedMap.insertAll (ms.filterMap (bindingOf? c className marker)) ∧
      found'.diagnostics = found.diagnostics ++ ms.filterMap (reportOf? c className marker) := by
  induction ms generalizing found with
  | nil =>
    cases h
    exact ⟨by simp, rfl, by simp⟩
  | cons m ms ih =>
    rw [List.foldlM_cons] at h
    obtain ⟨found₁, h₁, h⟩ := bind_eq_ok.1 h
    obtain ⟨hkey, hr₁, hd₁⟩ := scanMethod_eq_ok h₁
    obtain ⟨hkeys, hr, hd⟩ := ih h
    have hcons {β : Type} (f : Member → Option β) :
        (m :: ms).filterMap f = (f m).toList ++ ms.filterMap f := by
      rw [List.filterMap_cons]
      cases f m <;> rfl
    refine ⟨by simpa using ⟨hkey, hkeys⟩, ?_, ?_⟩
    · rw [hr, hr₁, hcons, OrderedMap.insertAll, OrderedMap.insertAll, OrderedMap.insertAll,
        List.foldl_append]
    · rw [hd, hd₁, hcons, List.append_assoc]

/-- All that a scan does. -/
theorem scan_eq_ok (h : scan c marker = .ok found) :
    ∃ className, c.className = .ok className ∧
      (∀ m ∈ nativeMethods c, ∃ key, keyOf? c m = some key) ∧
      found.registry.toOrderedMap = OrderedMap.empty.insertAll
        ((nativeMethods c).filterMap (bindingOf? c className marker)) ∧
      found.diagnostics = (nativeMethods c).filterMap (reportOf? c className marker) := by
  obtain ⟨className, hname, h⟩ := bind_eq_ok.1 h
  obtain ⟨hkeys, hr, hd⟩ := foldlM_scanMethod_eq_ok h
  exact ⟨className, hname, hkeys, hr, hd⟩

end

/-! ### Where methods end up -/

/-- The part of a name behind its last `/` or `.`. -/
def IsLastPart (name part : String) : Prop :=
  '/' ∉ part.toList ∧ '.' ∉ part.toList ∧ (part = name ∨
    ∃ front sep, (sep = '/' ∨ sep = '.') ∧ name.toList = front ++ sep :: part.toList)

theorem isLastPart_simpleNameOf (name : String) : IsLastPart name (simpleNameOf name) := by
  have hpart : (simpleNameOf name).toList =
      (name.toList.reverse.takeWhile fun ch => ch != '/' && ch != '.').reverse := by
    rw [simpleNameOf, String.toList_ofList]
  have hall : ∀ ch ∈ (simpleNameOf name).toList, (ch != '/' && ch != '.') = true := by
    intro ch hch
    rw [hpart, List.mem_reverse] at hch
    exact List.mem_takeWhile_imp (p := fun ch => ch != '/' && ch != '.') hch
  refine ⟨fun h => by simpa using hall _ h, fun h => by simpa using hall _ h, ?_⟩
  have hsplit := List.takeWhile_append_dropWhile
    (p := fun ch => ch != '/' && ch != '.') (l := name.toList.reverse)
  cases hrest : name.toList.reverse.dropWhile fun ch => ch != '/' && ch != '.' with
  | nil =>
    rw [hrest, List.append_nil] at hsplit
    left
    rw [← String.toList_inj, hpart, hsplit, List.reverse_reverse]
  | cons sep front =>
    right
    refine ⟨front.reverse, sep, ?_, ?_⟩
    · have hsep := List.head_dropWhile_not (fun ch => ch != '/' && ch != '.')
        (l := name.toList.reverse) (by simp [hrest])
      simp only [hrest, List.head_cons] at hsep
      by_cases h : sep = '/'
      · exact .inl h
      · exact .inr (by simpa [h] using hsep)
    · have := congrArg List.reverse hsplit
      rw [hrest] at this
      simpa [hpart] using this.symm

namespace Findings

/-- The methods that are reported, in order. -/
def reported (found : Findings) : List MethodKey := found.diagnostics.map (·.method)

/-- A method of the given name and descriptor, in a class whose functions belong to `module`, ends up
where its annotations say. -/
structure Places (found : Findings) (pool : Pool) (marker module : String) (m : Member)
    (key : MethodKey) : Prop where
  /-- It is bound if the search reaches a marked annotation that makes a binding, and to that. -/
  bound : ∀ b, (key, b) ∈ found.registry.entries ↔
    ∃ a, Reaches pool marker m a ∧ Declares pool module key.name a b
  /-- It is passed over in silence if there is nothing marked, and all that is searched can be
  read. -/
  silent : key ∉ found.registry.keys ∧ key ∉ found.reported ↔ Unmarked pool marker m
  /-- It is reported otherwise. -/
  reported : key ∈ found.reported ↔ ¬ Unmarked pool marker m ∧
    ¬ ∃ a b, Reaches pool marker m a ∧ Declares pool module key.name a b
  not_both : ¬ (key ∈ found.registry.keys ∧ key ∈ found.reported)

/-- Every native method of a class ends up where its annotations say, and the others nowhere. -/
structure Sorts (found : Findings) (c : ClassFile) (marker : String) : Prop where
  places : ∃ className module, c.className = .ok className ∧ IsLastPart className module ∧
    ∀ m ∈ c.methods, m.access.isNative = true →
      ∃ key, keyOf? c m = some key ∧ found.Places c.pool marker module m key
  /-- Only native methods are bound, in their order. -/
  bound_sublist : found.registry.keys.Sublist (nativeKeys c)
  /-- Only native methods are reported, in their order. -/
  reported_sublist : found.reported.Sublist (nativeKeys c)

end Findings

section
variable {c : ClassFile} {className marker : String} {found : Findings}

theorem bindingOf?_eq_some {m : Member} {key : MethodKey} {b : Binding} :
    bindingOf? c className marker m = some (key, b) ↔ keyOf? c m = some key ∧
      declaredBinding c.pool marker (simpleNameOf className) key.name m = .ok (some b) := by
  rw [bindingOf?, declarationOf?]
  cases keyOf? c m with
  | none => simp
  | some k =>
    simp only [Option.map_some, Option.some.injEq]
    constructor
    · intro h
      split at h
      · next hsome =>
        obtain ⟨rfl, hdec⟩ := Prod.mk.inj (Option.some.inj hsome)
        cases h
        exact ⟨rfl, hdec⟩
      · cases h
    · rintro ⟨rfl, hdec⟩
      rw [hdec]

theorem reportOf?_eq_some {m : Member} {d : Diagnostic} :
    reportOf? c className marker m = some d ↔ d.className = className ∧ keyOf? c m = some d.method ∧
      declaredBinding c.pool marker (simpleNameOf className) d.method.name m = .error d.problem := by
  rw [reportOf?, declarationOf?]
  cases keyOf? c m with
  | none => simp
  | some k =>
    simp only [Option.map_some, Option.some.injEq]
    constructor
    · intro h
      split at h
      · next hsome =>
        obtain ⟨rfl, hdec⟩ := Prod.mk.inj (Option.some.inj hsome)
        cases h
        exact ⟨rfl, rfl, hdec⟩
      · cases h
    · obtain ⟨name, method, problem⟩ := d
      rintro ⟨rfl, rfl, hdec⟩
      rw [hdec]

/-- The native methods that declare a binding, in order, are methods with keys. -/
theorem map_bindingOf?_sublist (c : ClassFile) (className marker : String) :
    (((nativeMethods c).filterMap (bindingOf? c className marker)).map (·.1)).Sublist
      (nativeKeys c) := by
  rw [List.map_filterMap]
  refine filterMap_sublist_filterMap (fun m key hm => ?_) _
  obtain ⟨⟨key, b⟩, hb, rfl⟩ := Option.map_eq_some_iff.1 hm
  exact (bindingOf?_eq_some.1 hb).1

theorem map_reportOf?_sublist (c : ClassFile) (className marker : String) :
    (((nativeMethods c).filterMap (reportOf? c className marker)).map (·.method)).Sublist
      (nativeKeys c) := by
  rw [List.map_filterMap]
  refine filterMap_sublist_filterMap (fun m key hm => ?_) _
  obtain ⟨d, hd, rfl⟩ := Option.map_eq_some_iff.1 hm
  exact (reportOf?_eq_some.1 hd).2.1

section
variable (hkeys : (nativeKeys c).Nodup) {m : Member} {key : MethodKey} (hm : m ∈ nativeMethods c)
  (hkey : keyOf? c m = some key)
include hkeys hm hkey

theorem mem_bindings_iff {b : Binding} :
    (key, b) ∈ (nativeMethods c).filterMap (bindingOf? c className marker) ↔
      declaredBinding c.pool marker (simpleNameOf className) key.name m = .ok (some b) := by
  rw [List.mem_filterMap]
  constructor
  · rintro ⟨m', hm', hb⟩
    obtain ⟨hkey', hdec⟩ := bindingOf?_eq_some.1 hb
    rwa [eq_of_filterMap_nodup hkeys hm hm' hkey hkey']
  · exact fun hdec => ⟨m, hm, bindingOf?_eq_some.2 ⟨hkey, hdec⟩⟩

theorem mem_reports_iff :
    key ∈ ((nativeMethods c).filterMap (reportOf? c className marker)).map (·.method) ↔
      ∃ problem, declaredBinding c.pool marker (simpleNameOf className) key.name m =
        .error problem := by
  simp only [List.mem_map, List.mem_filterMap]
  constructor
  · rintro ⟨d, ⟨m', hm', hd⟩, rfl⟩
    obtain ⟨-, hkey', hdec⟩ := reportOf?_eq_some.1 hd
    rw [eq_of_filterMap_nodup hkeys hm hm' hkey hkey']
    exact ⟨d.problem, hdec⟩
  · rintro ⟨problem, hdec⟩
    exact ⟨⟨className, key, problem⟩, ⟨m, hm, reportOf?_eq_some.2 ⟨rfl, hkey, hdec⟩⟩, rfl⟩

end

/-- What a method declares tells where it ends up, if its name and descriptor are its own. -/
theorem places_of_declaredBinding {pool : Pool} {module : String} {m : Member} {key : MethodKey}
    (hb : ∀ b, (key, b) ∈ found.registry.entries ↔
      declaredBinding pool marker module key.name m = .ok (some b))
    (hr : key ∈ found.reported ↔
      ∃ problem, declaredBinding pool marker module key.name m = .error problem) :
    found.Places pool marker module m key := by
  have hin : key ∈ found.registry.keys ↔
      ∃ b, declaredBinding pool marker module key.name m = .ok (some b) := by
    rw [OrderedMap.keys, List.mem_map]
    constructor
    · rintro ⟨⟨_, b⟩, hmem, rfl⟩
      exact ⟨b, (hb b).1 hmem⟩
    · rintro ⟨b, hdec⟩
      exact ⟨(key, b), (hb b).2 hdec, rfl⟩
  have hdeclares : (∃ a b, Reaches pool marker m a ∧ Declares pool module key.name a b) ↔
      ∃ b, declaredBinding pool marker module key.name m = .ok (some b) := by
    rw [exists_comm]
    simp only [declaredBinding_eq_some]
  have hunmarked : declaredBinding pool marker module key.name m = .ok none ↔
      Unmarked pool marker m := declaredBinding_eq_none
  refine ⟨fun b => (hb b).trans declaredBinding_eq_some, ?_, ?_, ?_⟩
  · rw [hin, hr, ← hunmarked]
    rcases declaredBinding pool marker module key.name m with problem | _ | b <;> simp
  · rw [hr, hdeclares, ← hunmarked]
    rcases declaredBinding pool marker module key.name m with problem | _ | b <;> simp
  · rw [hin, hr]
    rintro ⟨⟨b, hok⟩, problem, herror⟩
    rw [hok] at herror
    cases herror

/-- If no two native methods have the same name and descriptor, a scan puts each of them where its
annotations say. -/
theorem scan_sorts (h : scan c marker = .ok found) (hkeys : (nativeKeys c).Nodup) :
    found.Sorts c marker := by
  obtain ⟨className, hname, hreadable, hregistry, hdiagnostics⟩ := scan_eq_ok h
  have hbound := map_bindingOf?_sublist c className marker
  have hentries : found.registry.entries =
      (nativeMethods c).filterMap (bindingOf? c className marker) := by
    rw [hregistry]
    exact OrderedMap.entries_insertAll (m := .empty) (hbound.nodup hkeys)
  refine ⟨⟨className, _, hname, isLastPart_simpleNameOf className, fun m hm hnative => ?_⟩,
    by rwa [OrderedMap.keys, hentries],
    by rw [Findings.reported, hdiagnostics]; exact map_reportOf?_sublist c className marker⟩
  have hm : m ∈ nativeMethods c := List.mem_filter.2 ⟨hm, hnative⟩
  obtain ⟨key, hkey⟩ := hreadable m hm
  refine ⟨key, hkey, places_of_declaredBinding (fun b => ?_) ?_⟩
  · rw [hentries]
    exact mem_bindings_iff hkeys hm hkey
  · rw [Findings.reported, hdiagnostics]
    exact mem_reports_iff hkeys hm hkey

end

open Text.ModifiedUtf8 (encode) in
/-- A class with three native methods: one whose second attribute is searched first and is marked, one
whose annotations cannot be read, one without a mark. The last method is marked and not native. -/
def mixed : ClassFile where
  minor := 0
  major := 52
  pool := ⟨#[none, some (.utf8 (encode "a/b.C")), some (.classRef 1), some (.utf8 (encode "LImport;")),
    some (.utf8 (encode "f")), some (.utf8 (encode "()V")),
    some (.utf8 (encode "RuntimeInvisibleAnnotations")),
    some (.utf8 (encode "RuntimeVisibleAnnotations")), some (.utf8 (encode "g")),
    some (.utf8 (encode "h")), some (.utf8 (encode "name")), some (.utf8 (encode "js")),
    some (.utf8 (encode " "))]⟩
  access := ⟨0x0021⟩
  thisClass := 2
  superClass := 0
  interfaces := []
  fields := []
  methods := [
    ⟨⟨0x0109⟩, 4, 5, [⟨7, [0]⟩, ⟨6, [0, 1, 0, 3, 0, 2, 0, 10, 0x73, 0, 8, 0, 11, 0x73, 0, 12]⟩]⟩,
    ⟨⟨0x0109⟩, 8, 5, [⟨6, [0]⟩]⟩, ⟨⟨0x0109⟩, 9, 5, [⟨7, [0, 0]⟩]⟩,
    ⟨⟨0x0009⟩, 10, 5, [⟨6, [0, 1, 0, 3, 0, 0]⟩]⟩]
  attributes := []

theorem scan_sorts_mixed :
    ∃ found, scan mixed "LImport;" = .ok found ∧ (nativeKeys mixed).Nodup ∧
      found.registry.entries = [(⟨"f", "()V"⟩, ⟨"C", "g", none⟩)] ∧
      found.reported = [⟨"g", "()V"⟩] ∧ found.Sorts mixed "LImport;" := by
  have hdone : (match scan mixed "LImport;" with
      | .ok found => decide ((nativeKeys mixed).Nodup ∧
          found.registry.entries = [(⟨"f", "()V"⟩, ⟨"C", "g", none⟩)] ∧
          found.reported = [⟨"g", "()V"⟩])
      | .error _ => false) = true := by decide +kernel
  split at hdone
  · next found hscan =>
    obtain ⟨hkeys, hentries, hreported⟩ := of_decide_eq_true hdone
    exact ⟨found, hscan, hkeys, hentries, hreported, scan_sorts hscan hkeys⟩
  · cases hdone

end Import

end ScriptProxy
