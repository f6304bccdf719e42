/-
# ManualTraffic.Proofs.FlowConfig.Parsed -- configurations that are read from text

The members of an object are written one after another, each where key order puts it, and
a key that is there is written in its place.  So in every object that is read from a text
each key stands once and in key order, at any depth (`Json.keyed_of_parse`), and so it is
in a configuration that such an object is (`FlowConfig.distinct_of_parse`,
`FlowConfig.inOrder_of_parse`).
-/
import ManualTraffic.FlowConfig.Json
import ManualTraffic.Proofs.FlowConfig.Paths
import Mathlib.Data.List.Induction

namespace ManualTraffic

set_option autoImplicit false

/-! ## Members -/

namespace Members

variable {α : Type} {members : Members α} {key : String} {value : α}

/-- The keys of a mapping, in order. -/
def keys (members : Members α) : List String := members.map Prod.fst

theorem keys_replace : (members.replace key value).keys = members.keys := by
  induction members with
  | nil => rfl
  | cons first rest ih =>
      obtain ⟨k, v⟩ := first
      unfold replace
      split
      · rfl
      · exact congrArg (k :: ·) ih

theorem keys_insert : (members.insert key value).keys = KeyOrder.place key members.keys := by
  induction members with
  | nil => rfl
  | cons first rest ih =>
      obtain ⟨k, v⟩ := first
      have listed : keys ((k, v) :: rest) = k :: keys rest := rfl
      rw [listed, KeyOrder.place, insert]
      split
      · rfl
      · exact congrArg (k :: ·) ih

theorem keys_put : (members.put key value).keys = KeyOrder.add members.keys key := by
  have listed : (members.any fun member => member.1 = key) = true ↔ key ∈ members.keys := by
    rw [List.any_eq_true, keys, List.mem_map]
    simp only [decide_eq_true_eq]
  unfold put KeyOrder.add
  by_cases there : key ∈ members.keys
  · rw [if_pos (listed.2 there), if_pos there, keys_replace]
  · rw [if_neg fun any => there (listed.1 any), if_neg there, keys_insert]

/-- Each key stands once, and in key order. -/
structure Keyed (members : Members α) : Prop where
  nodup : (keys members).Nodup
  ordered : KeyOrder.Ordered (keys members)

theorem keyed_nil : Keyed ([] : Members α) := ⟨.nil, .nil⟩

/-- A write keeps the keys so. -/
theorem Keyed.put (keyed : Keyed members) : Keyed (members.put key value) where
  nodup := keys_put ▸ KeyOrder.nodup_add keyed.nodup
  ordered := keys_put ▸ KeyOrder.ordered_add keyed.ordered

variable {p : α → Prop}

theorem forall_replace (new : p value) (old : ∀ member ∈ members, p member.2) :
    ∀ member ∈ members.replace key value, p member.2 := by
  induction members with
  | nil => exact old
  | cons first rest ih =>
      obtain ⟨first_holds, rest_holds⟩ := List.forall_mem_cons.1 old
      unfold replace
      split
      · exact List.forall_mem_cons.2 ⟨new, rest_holds⟩
      · exact List.forall_mem_cons.2 ⟨first_holds, ih rest_holds⟩

theorem forall_insert (new : p value) (old : ∀ member ∈ members, p member.2) :
    ∀ member ∈ members.insert key value, p member.2 := by
  induction members with
  | nil => exact List.forall_mem_singleton.2 new
  | cons first rest ih =>
      obtain ⟨first_holds, rest_holds⟩ := List.forall_mem_cons.1 old
      unfold insert
      split
      · exact List.forall_mem_cons.2 ⟨new, old⟩
      · exact List.forall_mem_cons.2 ⟨first_holds, ih rest_holds⟩

theorem forall_put (new : p value) (old : ∀ member ∈ members, p member.2) :
    ∀ member ∈ members.put key value, p member.2 := by
  unfold put
  split
  · exact forall_replace new old
  · exact forall_insert new old

/-- In a mapping written member by member the keys are as they should be, and what holds
of all written values holds of all it has. -/
theorem ofList_spec {written : List (String × α)} (each : ∀ member ∈ written, p member.2) :
    Keyed (ofList written) ∧ ∀ member ∈ ofList written, p member.2 := by
  apply List.foldlRecOn (motive := fun members => Keyed members ∧ ∀ member ∈ members, p member.2)
  · exact ⟨keyed_nil, List.forall_mem_nil _⟩
  · intro members ⟨keyed, holds⟩ member listed
    exact ⟨keyed.put, forall_put (each member listed) holds⟩

theorem insert_behind (behind : ∀ member ∈ members, KeyOrder.precedes key member.1 = false) :
    members.insert key value = members ++ [(key, value)] := by
  induction members with
  | nil => rfl
  | cons first rest ih =>
      obtain ⟨k, v⟩ := first
      obtain ⟨stays, behind⟩ := List.forall_mem_cons.1 behind
      rw [insert, if_neg (by simp [stays]), ih behind]
      rfl

/-- A mapping is what writing its members in order leaves. -/
theorem Keyed.ofList_eq (keyed : Keyed members) : ofList members = members := by
  induction members using List.reverseRecOn with
  | nil => rfl
  | append_singleton front last ih =>
      obtain ⟨key, value⟩ := last
      obtain ⟨nodup, ordered⟩ := keyed
      rw [keys, List.map_append] at nodup ordered
      obtain ⟨distinct, -, apart⟩ := List.nodup_append.1 nodup
      obtain ⟨inOrder, -, across⟩ := List.pairwise_append.1 ordered
      have written : ofList (front ++ [(key, value)]) = (ofList front).put key value := by
        rw [ofList, List.foldl_append]
        rfl
      have absent : ¬(front.any fun member => member.1 = key) = true := by
        intro any
        obtain ⟨member, there, same⟩ := List.any_eq_true.1 any
        exact apart member.1 (List.mem_map_of_mem there) key (List.mem_singleton_self key)
          (of_decide_eq_true same)
      have behind (member : String × α) (there : member ∈ front) :
          KeyOrder.precedes key member.1 = false :=
        across member.1 (List.mem_map_of_mem there) key (List.mem_singleton_self key)
      rw [written, ih ⟨distinct, inOrder⟩, Members.put, if_neg absent, insert_behind behind]

end Members

/-! ## Values -/

namespace Json

/-- In every object in a value each key stands once, and in key order. -/
inductive Keyed : Json → Prop where
  | null : Keyed .null
  | bool (value : Bool) : Keyed (.bool value)
  | number (value : Binary64) : Keyed (.number value)
  | string (value : String) : Keyed (.string value)
  | array {items : List Json} (each : ∀ item ∈ items, item.Keyed) : Keyed (.array items)
  | object {members : List (String × Json)} (keyed : Members.Keyed members)
      (each : ∀ member ∈ members, member.2.Keyed) : Keyed (.object members)

theorem keyed_ofList {written : List (String × Json)}
    (each : ∀ member ∈ written, member.2.Keyed) : Keyed (.object (Members.ofList written)) := by
  obtain ⟨keyed, holds⟩ := Members.ofList_spec each
  exact .object keyed holds

/-- What the reader returns has its keys so, whatever its fuel. -/
structure ReadsKeyed (fuel : Nat) : Prop where
  value : ∀ {text rest : List Char} {read : Json}, value fuel text = some (read, rest) →
    read.Keyed
  items : ∀ {text rest : List Char} {read : List Json}, items fuel text = some (read, rest) →
    ∀ item ∈ read, item.Keyed
  members : ∀ {text rest : List Char} {read : List (String × Json)},
    members fuel text = some (read, rest) → ∀ member ∈ read, member.2.Keyed

theorem readsKeyed (fuel : Nat) : ReadsKeyed fuel := by
  induction fuel with
  | zero =>
      constructor
      · intro text rest read done
        simp [value] at done
      · intro text rest read done
        simp [items] at done
      · intro text rest read done
        simp [members] at done
  | succ fuel ih =>
      constructor
      · intro text rest read done
        unfold value at done
        split at done
        · cases done
          exact .null
        · cases done
          exact .bool true
        · cases done
          exact .bool false
        · obtain ⟨⟨s, behind⟩, -, same⟩ := Option.map_eq_some_iff.1 done
          cases same
          exact .string _
        · split at done
          · cases done
            exact .array (List.forall_mem_nil _)
          · obtain ⟨⟨xs, behind⟩, inside, same⟩ := Option.map_eq_some_iff.1 done
            cases same
            exact .array (ih.items inside)
        · split at done
          · cases done
            exact .object Members.keyed_nil (List.forall_mem_nil _)
          · obtain ⟨⟨ms, behind⟩, inside, same⟩ := Option.map_eq_some_iff.1 done
            cases same
            exact keyed_ofList (ih.members inside)
        · obtain ⟨⟨x, behind⟩, -, same⟩ := Option.map_eq_some_iff.1 done
          cases same
          exact .number x
        · obtain ⟨⟨x, behind⟩, -, same⟩ := Option.map_eq_some_iff.1 done
          cases same
          exact .number x
      · intro text rest read done
        unfold items at done
        split at done
        · cases done
        · rename_i x behind first
          split at done
          · cases done
            exact List.forall_mem_singleton.2 (ih.value first)
          · obtain ⟨⟨xs, behind⟩, later, same⟩ := Option.map_eq_some_iff.1 done
            cases same
            exact List.forall_mem_cons.2 ⟨ih.value first, ih.items later⟩
          · cases done
      · intro text rest read done
        unfold members at done
        split at done
        · split at done
          · cases done
          · split at done
            · split at done
              · cases done
              · rename_i x behind first
                split at done
                · cases done
                  exact List.forall_mem_singleton.2 (ih.value first)
                · obtain ⟨⟨ms, behind⟩, later, same⟩ := Option.map_eq_some_iff.1 done
                  cases same
                  exact List.forall_mem_cons.2 ⟨ih.value first, ih.members later⟩
                · cases done
            · cases done
        · cases done

/-- In a value that a text writes each key stands once in its object, and in key order. -/
theorem keyed_of_parse {text : List Char} {read : Json} (done : parse? text = some read) :
    read.Keyed := by
  unfold parse? at done
  split at done
  · rename_i x rest first
    split at done
    · cases done
      exact (readsKeyed _).value first
    · cases done
  · cases done

end Json

/-! ## Configurations -/

namespace FlowConfig

variable {members : List (String × Json)} {config inner : FlowConfig} {value : Json} {node : Node}
  {key : String}

theorem ofMembers?_cons (made : ofMembers? ((key, value) :: members) = some config) :
    ∃ node rest, nodeOfJson? value = some node ∧ ofMembers? members = some rest ∧
      config = entry key node rest := by
  unfold ofMembers? at made
  split at made
  · rename_i node rest first later
    cases made
    exact ⟨node, rest, first, later, rfl⟩
  · cases made

theorem keys_ofMembers (made : ofMembers? members = some config) :
    config.keys = Members.keys members := by
  induction members generalizing config with
  | nil =>
      cases made
      rfl
  | cons first members ih =>
      obtain ⟨node, rest, -, later, rfl⟩ := ofMembers?_cons made
      rw [keys_entry, ih later]
      rfl

theorem lowest_ofMembers (made : ofMembers? members = some config) : config.lowest = .root := by
  induction members generalizing config with
  | nil =>
      cases made
      rfl
  | cons first members ih =>
      obtain ⟨node, rest, -, later, rfl⟩ := ofMembers?_cons made
      rw [lowest_entry, ih later]

/-- Under each key stands what one of the members was made into. -/
theorem own?_ofMembers (made : ofMembers? members = some config)
    (own : config.own? key = some node) :
    ∃ member ∈ members, nodeOfJson? member.2 = some node := by
  induction members generalizing config with
  | nil =>
      cases made
      cases own
  | cons first members ih =>
      obtain ⟨there, rest, value, later, rfl⟩ := ofMembers?_cons made
      rw [own?_entry] at own
      split at own
      · cases own
        exact ⟨first, List.mem_cons_self, value⟩
      · obtain ⟨member, listed, same⟩ := ih later own
        exact ⟨member, List.mem_cons_of_mem _ listed, same⟩

theorem distinct_ofMembers (nodup : (Members.keys members).Nodup)
    (each : ∀ member ∈ members, ∀ node, nodeOfJson? member.2 = some node → node.Distinct)
    (made : ofMembers? members = some config) : config.Distinct := by
  induction members generalizing config with
  | nil =>
      cases made
      trivial
  | cons first members ih =>
      obtain ⟨node, rest, value, later, rfl⟩ := ofMembers?_cons made
      obtain ⟨fresh, nodup⟩ := List.nodup_cons.1 nodup
      obtain ⟨here, each⟩ := List.forall_mem_cons.1 each
      have absent : rest.own? first.1 = none := not_mem_keys.1 (keys_ofMembers later ▸ fresh)
      exact distinct_entry.2 ⟨absent, here node value, ih nodup each later⟩

theorem distinct_nodeOfJson (keyed : value.Keyed) (made : nodeOfJson? value = some node) :
    node.Distinct := by
  induction keyed generalizing node with
  | null | bool | number | string =>
      cases made
      trivial
  | array => cases made
  | object keyed each ih =>
      obtain ⟨config, inside, rfl⟩ := Option.map_eq_some_iff.1 made
      exact distinct_ofMembers keyed.nodup (fun member there node => ih member there) inside

theorem inOrder_nodeOfJson (keyed : value.Keyed)
    (made : nodeOfJson? value = some (.mapping config)) : config.InOrder := by
  induction keyed generalizing config with
  | null | bool | number | string | array => cases made
  | @object members keyed each ih =>
      obtain ⟨made', inside, same⟩ := Option.map_eq_some_iff.1 made
      cases same
      have ordered : KeyOrder.Ordered config.keys := keys_ofMembers inside ▸ keyed.ordered
      refine .of_entries (lowest_ofMembers inside) ordered fun key inner own => ?_
      obtain ⟨member, listed, same⟩ := own?_ofMembers inside own
      exact ih member listed same

theorem node_of_ofJson? (made : ofJson? value = some config) :
    nodeOfJson? value = some (.mapping config) := by
  cases value with
  | object members => exact congrArg (Option.map Node.mapping) made
  | _ => cases made

variable {text : List Char} (parsed : Json.parse? text = some value)
  (made : ofJson? value = some config)

include parsed made

/-- **A configuration that is read from a text holds no key twice**, at any depth. -/
theorem distinct_of_parse : config.Distinct :=
  distinct_nodeOfJson (Json.keyed_of_parse parsed) (node_of_ofJson? made)

/-- A configuration that is read from a text has its keys in key order, at any depth. -/
theorem inOrder_of_parse : config.InOrder :=
  inOrder_nodeOfJson (Json.keyed_of_parse parsed) (node_of_ofJson? made)

end FlowConfig

end ManualTraffic
