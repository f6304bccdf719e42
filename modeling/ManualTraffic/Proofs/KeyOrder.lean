/-
# ManualTraffic.Proofs.KeyOrder -- the keys of a mapping, as they are written

Only two things decide where a write leaves the keys of a mapping: which keys are there,
and in which order the *names* among them came, the keys that are no index.  So keys in
key order (`KeyOrder.Ordered`) are known by their members and their names
(`eq_of_ordered`), and both are easy to follow through any number of writes
(`mem_addAll`, `named_addAll`, `ordered_addAll`).  Writing keys that are in order already
gives them back (`addAll_of_ordered`), and it does not matter whether keys are written
one list after the other or gathered first (`addAll_gathered`).

Written out, keys in order are the decimals of an ascending list of numbers (`indices`) and then
the names; after two lists of writes these are the names of the first and the new ones of the
second (`addAll_addAll`).  No write moves a key (`sublist_addAll`).
-/
import ManualTraffic.KeyOrder
import Mathlib.Data.List.Basic
import Mathlib.Data.List.Nodup
import Mathlib.Data.List.Perm.Basic

namespace ManualTraffic

set_option autoImplicit false

namespace KeyOrder

variable {key k first second third : String} {keys written more others : List String}

/-! ## The order of two keys -/

theorem toDigits_of_index? {n : Nat} (index : index? key = some n) :
    Nat.toDigits 10 n = key.toList := by
  simp only [index?, Option.ite_none_right_eq_some, Option.some.injEq] at index
  obtain ⟨⟨-, canonical⟩, rfl⟩ := index
  exact canonical

/-- An index has one key. -/
theorem index?_inj {n : Nat} (here : index? first = some n) (there : index? second = some n) :
    first = second :=
  String.toList_injective ((toDigits_of_index? here).symm.trans (toDigits_of_index? there))

theorem precedes_of_name (name : index? first = none) : precedes first second = false := by
  simp only [precedes, name]

theorem precedes_self : precedes key key = false := by
  cases index : index? key <;> simp [precedes, index]

theorem precedes_asymm (ahead : precedes first second = true) :
    precedes second first = false := by
  cases here : index? first <;> cases there : index? second <;>
    simp only [precedes, here, there, decide_eq_true_eq, decide_eq_false_iff_not] at ahead ⊢
  · cases ahead
  · omega

theorem precedes_trans (ahead : precedes first second = true)
    (behind : precedes second third = true) : precedes first third = true := by
  cases a : index? first with
  | none => simp [precedes, a] at ahead
  | some m =>
      cases c : index? third with
      | none => simp [precedes, a, c]
      | some n =>
          cases b : index? second with
          | none => simp [precedes, b] at behind
          | some l =>
              simp only [precedes, a, b, c, decide_eq_true_eq] at ahead behind ⊢
              omega

/-! ## Writes, seen from the keys -/

/-- Places a key that is not there yet. -/
def place (key : String) : List String → List String
  | [] => [key]
  | k :: rest => if precedes key k then key :: k :: rest else k :: place key rest

/-- The keys after a write. -/
def add (keys : List String) (key : String) : List String :=
  if key ∈ keys then keys else place key keys

/-- The keys after several writes. -/
def addAll (keys written : List String) : List String := written.foldl add keys

/-- Whether a key is no index. -/
def isName (key : String) : Bool := (index? key).isNone

/-- The names among keys. -/
def named (keys : List String) : List String := keys.filter isName

/-- No key stands behind one that it precedes. -/
def Ordered (keys : List String) : Prop :=
  keys.Pairwise fun earlier later => precedes later earlier = false

theorem place_perm : (place key keys).Perm (key :: keys) := by
  induction keys with
  | nil => exact .refl _
  | cons k rest ih =>
      unfold place
      split
      · exact .refl _
      · exact (ih.cons k).trans (.swap key k rest)

theorem mem_place : k ∈ place key keys ↔ k = key ∨ k ∈ keys :=
  place_perm.mem_iff.trans List.mem_cons

theorem ordered_place (ordered : Ordered keys) : Ordered (place key keys) := by
  induction keys with
  | nil => exact List.pairwise_singleton _ _
  | cons k rest ih =>
      obtain ⟨behind, restOrdered⟩ := List.pairwise_cons.1 ordered
      unfold place
      split
      · rename_i ahead
        refine List.pairwise_cons.2 ⟨fun later there => ?_, ordered⟩
        rcases List.mem_cons.1 there with rfl | there
        · exact precedes_asymm ahead
        · cases through : precedes later key with
          | false => rfl
          | true =>
              have wrong := precedes_trans through ahead
              rw [behind later there] at wrong
              cases wrong
      · rename_i stays
        refine List.pairwise_cons.2 ⟨fun later there => ?_, ih restOrdered⟩
        rcases mem_place.1 there with rfl | there
        · simpa using stays
        · exact behind later there

/-- A new name goes to the end, and a new index leaves the names as they are. -/
theorem named_place : named (place key keys) = named keys ++ named [key] := by
  induction keys with
  | nil => rfl
  | cons k rest ih =>
      unfold place
      split
      · rename_i ahead
        have index : isName key = false := by
          cases name : index? key with
          | some n => simp [isName, name]
          | none => simp [precedes_of_name name] at ahead
        simp [named, index]
      · unfold named at ih ⊢
        rw [List.filter_cons, List.filter_cons, ih]
        split <;> rfl

theorem mem_add : k ∈ add keys key ↔ k ∈ keys ∨ k = key := by
  unfold add
  split
  · rename_i there
    constructor
    · exact Or.inl
    · rintro (there' | rfl)
      · exact there'
      · exact there
  · exact mem_place.trans or_comm

theorem nodup_add (nodup : keys.Nodup) : (add keys key).Nodup := by
  unfold add
  split
  · exact nodup
  · rename_i absent
    exact place_perm.nodup_iff.2 (List.nodup_cons.2 ⟨absent, nodup⟩)

theorem ordered_add (ordered : Ordered keys) : Ordered (add keys key) := by
  unfold add
  split
  · exact ordered
  · exact ordered_place ordered

/-! ## Several writes -/

theorem addAll_cons : addAll keys (key :: written) = addAll (add keys key) written := rfl

theorem mem_addAll : k ∈ addAll keys written ↔ k ∈ keys ∨ k ∈ written := by
  induction written generalizing keys with
  | nil => simp [addAll]
  | cons key written ih => rw [addAll_cons, ih, mem_add, List.mem_cons, or_assoc]

theorem nodup_addAll (nodup : keys.Nodup) : (addAll keys written).Nodup := by
  induction written generalizing keys with
  | nil => exact nodup
  | cons key written ih => exact ih (nodup_add nodup)

theorem ordered_addAll (ordered : Ordered keys) : Ordered (addAll keys written) := by
  induction written generalizing keys with
  | nil => exact ordered
  | cons key written ih => exact ih (ordered_add ordered)

theorem named_append : named (keys ++ more) = named keys ++ named more := List.filter_append ..

theorem named_filter {p : String → Bool} : named (keys.filter p) = (named keys).filter p := by
  simp [named, List.filter_filter, Bool.and_comm]

/-- The names that were there stay in front, and the new ones follow as they come. -/
theorem named_addAll (nodup : written.Nodup) :
    named (addAll keys written) = named keys ++ named (written.filter (· ∉ keys)) := by
  induction written generalizing keys with
  | nil => simp [addAll, named]
  | cons key written ih =>
      obtain ⟨once, nodup⟩ := List.nodup_cons.1 nodup
      -- nothing behind `key` is `key`, so whether it was added does not show there
      have same : written.filter (· ∉ add keys key) = written.filter (· ∉ keys) := by
        refine List.filter_congr fun k there => ?_
        have apart : k ≠ key := fun same => once (same ▸ there)
        simp [mem_add, apart]
      rw [addAll_cons, ih nodup, same, List.filter_cons, add]
      split
      · rename_i there
        simp [there]
      · rename_i absent
        rw [named_place, List.append_assoc, ← named_append]
        simp [absent]

/-! ## Keys in key order -/

/-- Keys in order are their indices and then their names. -/
theorem Ordered.eq_append (ordered : Ordered keys) :
    keys = keys.filter (fun key => !isName key) ++ named keys := by
  induction keys with
  | nil => rfl
  | cons k rest ih =>
      obtain ⟨behind, restOrdered⟩ := List.pairwise_cons.1 ordered
      cases name : isName k with
      | false => simpa [named, name] using ih restOrdered
      | true =>
          -- an index would stand before the name
          have names : ∀ later ∈ rest, isName later = true := by
            intro later there
            have stays := behind later there
            cases index : index? later with
            | none => simp [isName, index]
            | some n => simp [precedes, index, Option.isNone_iff_eq_none.1 name] at stays
          have none_left : rest.filter (fun key => !isName key) = [] := by simpa using names
          have all_named : rest.filter isName = rest := List.filter_eq_self.2 names
          simp [named, name, none_left, all_named]

/-- Keys in order are known by their members and by their names. -/
theorem eq_of_ordered (ordered : Ordered keys) (othersOrdered : Ordered others)
    (nodup : keys.Nodup) (othersNodup : others.Nodup) (members : ∀ k, k ∈ keys ↔ k ∈ others)
    (names : named keys = named others) : keys = others := by
  have perm : keys.Perm others := (List.perm_ext_iff_of_nodup nodup othersNodup).2 members
  have indices : keys.filter (fun key => !isName key) = others.filter fun key => !isName key := by
    refine List.Perm.eq_of_pairwise ?_ (List.Pairwise.filter _ ordered)
      (List.Pairwise.filter _ othersOrdered) (perm.filter _)
    intro first second here there stays stays'
    have firstIndex := (List.mem_filter.1 here).2
    have secondIndex := (List.mem_filter.1 there).2
    cases a : index? first with
    | none => simp [isName, a] at firstIndex
    | some m =>
        cases b : index? second with
        | none => simp [isName, b] at secondIndex
        | some n =>
            simp only [precedes, a, b, decide_eq_false_iff_not] at stays stays'
            have same : m = n := by omega
            exact index?_inj a (same ▸ b)
  rw [ordered.eq_append, othersOrdered.eq_append, indices, names]

/-- Writing keys that are in order already gives them back. -/
theorem addAll_of_ordered (ordered : Ordered keys) (nodup : keys.Nodup) :
    addAll [] keys = keys := by
  refine eq_of_ordered (ordered_addAll .nil) ordered (nodup_addAll .nil) nodup (fun k => ?_) ?_
  · simp [mem_addAll]
  · rw [named_addAll nodup]
    simp [named]

/-- Keys that are gathered before they are written come out as if they were written one
list after the other. -/
theorem addAll_gathered (ordered : Ordered keys) (nodup : keys.Nodup) (writtenNodup : written.Nodup)
    (moreNodup : more.Nodup) :
    addAll keys (addAll (addAll [] written) more) = addAll (addAll keys written) more := by
  have gatheredNodup : (addAll (addAll [] written) more).Nodup := nodup_addAll (nodup_addAll .nil)
  refine eq_of_ordered (ordered_addAll ordered) (ordered_addAll (ordered_addAll ordered))
    (nodup_addAll nodup) (nodup_addAll (nodup_addAll nodup)) (fun k => ?_) ?_
  · simp [mem_addAll, or_assoc]
  · calc named (addAll keys (addAll (addAll [] written) more))
        = named keys ++ (named (addAll (addAll [] written) more)).filter (· ∉ keys) := by
          rw [named_addAll gatheredNodup, named_filter]
      _ = named keys ++ (named written ++ named (more.filter (· ∉ written))).filter (· ∉ keys) := by
          rw [named_addAll moreNodup, named_addAll writtenNodup]
          simp [mem_addAll, named]
      _ = named keys ++ named (written.filter (· ∉ keys)) ++
            named (more.filter (· ∉ addAll keys written)) := by
          simp [mem_addAll, List.filter_filter, named, Bool.and_comm, Bool.and_assoc]
      _ = named (addAll (addAll keys written) more) := by
          rw [named_addAll moreNodup, named_addAll writtenNodup]

/-! ## Indices and names -/

theorem index?_eq_some_iff {n : Nat} : index? key = some n ↔ n ≤ lastIndex ∧ key = toString n := by
  have decimal : key = toString n ↔ Nat.toDigits 10 n = key.toList := by
    rw [Nat.toString_eq_ofList_toDigits, ← String.toList_inj, String.toList_ofList, eq_comm]
  rw [decimal]
  constructor
  · intro index
    refine ⟨?_, toDigits_of_index? index⟩
    simp only [index?, Option.ite_none_right_eq_some, Option.some.injEq] at index
    obtain ⟨⟨small, -⟩, rfl⟩ := index
    exact small
  · rintro ⟨small, canonical⟩
    simp [index?, ← canonical, small]

theorem isName_iff : isName key = true ↔ ∀ n ≤ lastIndex, key ≠ toString n := by
  rw [isName, Option.isNone_iff_eq_none, Option.eq_none_iff_forall_ne_some]
  refine forall_congr' fun n => ?_
  rw [Ne, index?_eq_some_iff, not_and]

/-- The numbers of the indices among keys. -/
def indices (keys : List String) : List Nat := keys.filterMap index?

theorem mem_indices {n : Nat} : n ∈ indices keys ↔ n ≤ lastIndex ∧ toString n ∈ keys := by
  simp only [indices, List.mem_filterMap, index?_eq_some_iff]
  constructor
  · rintro ⟨key, there, small, rfl⟩
    exact ⟨small, there⟩
  · rintro ⟨small, there⟩
    exact ⟨_, there, small, rfl⟩

theorem map_indices : (indices keys).map toString = keys.filter fun key => !isName key := by
  induction keys with
  | nil => rfl
  | cons key keys ih =>
      cases index : index? key with
      | none => simpa [indices, isName, index] using ih
      | some n =>
          have same : toString n = key := (index?_eq_some_iff.1 index).2.symm
          simpa [indices, isName, index, same] using ih

/-- Keys in order have their indices in ascending order. -/
theorem ascending_indices (ordered : Ordered keys) (nodup : keys.Nodup) :
    (indices keys).Pairwise (· < ·) := by
  rw [indices, List.pairwise_filterMap]
  refine (ordered.and nodup).imp ?_
  rintro earlier later ⟨stays, apart⟩ m here n there
  simp only [precedes, here, there, decide_eq_false_iff_not] at stays
  have differ : m ≠ n := fun same => apart (index?_inj here (same ▸ there))
  omega

/-- Keys that are written in turn, and others behind them: the indices of both, the names of the
first, and the names that only the others have. -/
theorem addAll_addAll (nodup : keys.Nodup) (writtenNodup : written.Nodup) :
    addAll (addAll [] keys) written =
      (indices (addAll (addAll [] keys) written)).map toString ++ named keys ++
        (named written).filter (· ∉ keys) := by
  have ordered : Ordered (addAll (addAll [] keys) written) := ordered_addAll (ordered_addAll .nil)
  have names : named (addAll (addAll [] keys) written) =
      named keys ++ (named written).filter (· ∉ keys) := by
    rw [named_addAll writtenNodup, named_addAll nodup, named_filter]
    simp [mem_addAll, named, List.filter_filter, Bool.and_comm]
  rw [List.append_assoc, ← names, map_indices]
  exact ordered.eq_append

/-! ## Keys stay where they are -/

theorem sublist_place : keys.Sublist (place key keys) := by
  induction keys with
  | nil => exact List.nil_sublist _
  | cons k rest ih =>
      unfold place
      split
      · exact List.sublist_cons_self _ _
      · exact ih.cons_cons k

theorem sublist_add : keys.Sublist (add keys key) := by
  unfold add
  split
  · exact .refl _
  · exact sublist_place

/-- No write moves a key. -/
theorem sublist_addAll : keys.Sublist (addAll keys written) := by
  induction written generalizing keys with
  | nil => exact .refl _
  | cons key written ih => exact sublist_add.trans ih

/-- Writes of keys that are there leave all keys as they are. -/
theorem addAll_of_subset (there : ∀ key ∈ written, key ∈ keys) : addAll keys written = keys := by
  induction written with
  | nil => rfl
  | cons key written ih =>
      obtain ⟨here, others⟩ := List.forall_mem_cons.1 there
      rw [addAll_cons, add, if_pos here, ih others]

end KeyOrder

/-! ## Members with other values -/

namespace Members

variable {α β : Type} {f : α → β} {members : Members α} {key : String} {value : α}

/-- The members of a mapping with their values taken to others. -/
def mapValues (f : α → β) (members : Members α) : Members β :=
  members.map fun member => (member.1, f member.2)

theorem mapValues_cons :
    mapValues f ((key, value) :: members) = (key, f value) :: mapValues f members := rfl

theorem mapValues_insert :
    mapValues f (members.insert key value) = (mapValues f members).insert key (f value) := by
  induction members with
  | nil => rfl
  | cons first rest ih =>
      obtain ⟨k, v⟩ := first
      rw [insert, mapValues_cons, insert]
      split
      · rfl
      · rw [mapValues_cons, ih]

theorem mapValues_replace :
    mapValues f (members.replace key value) = (mapValues f members).replace key (f value) := by
  induction members with
  | nil => rfl
  | cons first rest ih =>
      obtain ⟨k, v⟩ := first
      rw [replace, mapValues_cons, replace]
      split
      · rfl
      · rw [mapValues_cons, ih]

/-- A write does not look at values. -/
theorem mapValues_put :
    mapValues f (members.put key value) = (mapValues f members).put key (f value) := by
  have same : (mapValues f members).any (fun member => member.1 = key) =
      members.any fun member => member.1 = key := List.any_map
  unfold put
  rw [same]
  split
  · exact mapValues_replace
  · exact mapValues_insert

end Members

end ManualTraffic
