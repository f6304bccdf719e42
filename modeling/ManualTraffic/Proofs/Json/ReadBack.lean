/-
# ManualTraffic.Proofs.Json.ReadBack -- JSON text reads back

A value reads back (`ReadsBack`) when the reader, put in front of its text in any layout, takes
exactly this text, whatever stands behind it, and comes to what a text keeps of the value
(`legible`).  The text behind matters for numbers alone, which must not go on in it.  Every value
whose objects have each key once, and in key order, reads back (`Keyed.readsBack`): the reader puts
each member behind those that it has, so the order of the text is the order of the object.
-/
import ManualTraffic.Proofs.Binary64.ReadBack
import ManualTraffic.Proofs.FlowConfig.Parsed

namespace ManualTraffic

set_option autoImplicit false

namespace Json

/-! ## Strings -/

variable {c : Char} {s text rest : List Char}

theorem stringBody_plain (first : c ≠ '"') (second : c ≠ '\\') (printed : ¬c.toNat < 0x20)
    (done : stringBody none text = some (s, rest)) :
    stringBody none (c :: text) = some (c :: s, rest) := by
  simp [stringBody, second, printed, done, stringBody.alone]

theorem stringBody_letter {e : Char} (letter : unescape? e = some c)
    (done : stringBody none text = some (s, rest)) :
    stringBody none ('\\' :: e :: text) = some (c :: s, rest) := by
  have notU : e ≠ 'u' := by
    rintro rfl
    cases letter
  unfold stringBody
  simp [notU, letter, done, stringBody.alone]

theorem stringBody_number {n : Nat} (control : n < 0x20)
    (done : stringBody none text = some (s, rest)) :
    stringBody none ('\\' :: 'u' :: '0' :: '0' :: Nat.digitChar (n / 16) ::
      Nat.digitChar (n % 16) :: text) = some (Char.ofNat n :: s, rest) := by
  have number : ∀ n < 0x20, Text.readDigits? 16 0 ['0', '0', Nat.digitChar (n / 16),
      Nat.digitChar (n % 16)] = some n := by decide
  have high : ¬(0xD800 ≤ n ∧ n < 0xDC00) := by omega
  have low : ¬(0xDC00 ≤ n ∧ n < 0xE000) := by omega
  simp [stringBody, number n control, high, low, done]

/-- A character in a string is read back. -/
theorem stringBody_escapeChar (c : Char) (done : stringBody none text = some (s, rest)) :
    stringBody none (escapeChar c ++ text) = some (c :: s, rest) := by
  unfold escapeChar
  split
  · rename_i quote
    subst quote
    exact stringBody_letter rfl done
  · rename_i first
    split
    · rename_i backslash
      subst backslash
      exact stringBody_letter rfl done
    · rename_i second
      split
      · rename_i control
        have same : Char.ofNat c.toNat = c := Char.ofNat_toNat c
        have letter {e d : Char} {n : Nat} (known : unescape? e = some d) (code : c.toNat = n)
            (number : Char.ofNat n = d) :
            stringBody none ('\\' :: e :: text) = some (c :: s, rest) := by
          rw [← same, code, number]
          exact stringBody_letter known done
        split
        case h_6 =>
          have read := stringBody_number control done
          rwa [same] at read
        all_goals
          rename_i code
          exact letter rfl code rfl
      · rename_i printed
        exact stringBody_plain first second printed done

/-- A string is read back to its closing quote. -/
theorem stringBody_escaped (s rest : List Char) :
    stringBody none (s.flatMap escapeChar ++ '"' :: rest) = some (s, rest) := by
  induction s with
  | nil => simp [stringBody, stringBody.alone]
  | cons c s ih =>
      rw [List.flatMap_cons, List.append_assoc]
      exact stringBody_escapeChar c ih

/-! ## What a text keeps -/

mutual

/-- What the text of a value keeps of it: a zero without its sign, and of a number that is not
finite that there is none. -/
def legible : Json → Json
  | .null => .null
  | .bool value => .bool value
  | .number x => if x.isFinite then .number x.withoutZeroSign else .null
  | .string s => .string s
  | .array items => .array (legibleItems items)
  | .object members => .object (legibleMembers members)
termination_by structural value => value

/-- The same of each item. -/
def legibleItems : List Json → List Json
  | [] => []
  | item :: items => item.legible :: legibleItems items
termination_by structural items => items

/-- The same of each member, under its key. -/
def legibleMembers : List (String × Json) → List (String × Json)
  | [] => []
  | (key, value) :: members => (key, value.legible) :: legibleMembers members
termination_by structural members => members

end

theorem keys_legibleMembers (members : List (String × Json)) :
    Members.keys (legibleMembers members) = Members.keys members := by
  induction members with
  | nil => rfl
  | cons member members ih => exact congrArg (member.1 :: ·) ih

theorem keyed_legibleMembers {members : List (String × Json)} (keyed : Members.Keyed members) :
    Members.Keyed (legibleMembers members) where
  nodup := keys_legibleMembers members ▸ keyed.nodup
  ordered := keys_legibleMembers members ▸ keyed.ordered

/-! ## Spaces -/

/-- A text begins as a value does. -/
def Begins (text : List Char) : Prop :=
  ∃ c more, text = c :: more ∧ isSpace c = false ∧ c ≠ ']'

/-- Only a text that begins so is read as a value. -/
theorem begins_of_value {fuel : Nat} {read : Json × List Char}
    (done : value fuel text = some read) : Begins text := by
  cases fuel with
  | zero => simp [value] at done
  | succ fuel =>
      unfold value at done
      split at done
      case h_8 =>
        obtain ⟨number, found, -⟩ := Option.map_eq_some_iff.1 done
        obtain ⟨c, more, rfl, digit⟩ := exists_digit_of_magnitude found
        refine ⟨c, more, rfl, ?_, ?_⟩
        · cases space : isSpace c with
          | false => rfl
          | true =>
              simp only [isSpace, Bool.or_eq_true, beq_iff_eq] at space
              rcases space with ((rfl | rfl) | rfl) | rfl <;> cases digit
        · rintro rfl
          cases digit
      all_goals exact ⟨_, _, rfl, rfl, by decide⟩

theorem skip_of_begins (begins : Begins text) : skip text = text := by
  obtain ⟨c, more, rfl, notSpace, -⟩ := begins
  simp [skip, notSpace]

/-- The space before an item is skipped. -/
theorem skip_lineBreak (layout : Layout) (depth : Nat) (text : List Char) :
    skip (layout.lineBreak depth ++ text) = skip text := by
  have spaces : ∀ c ∈ layout.lineBreak depth, isSpace c = true := by
    cases layout with
    | line => exact List.forall_mem_nil _
    | indented step =>
        refine List.forall_mem_cons.2 ⟨rfl, fun d inside => ?_⟩
        rw [List.eq_of_mem_replicate inside]
        rfl
  exact List.dropWhile_append_of_pos spaces

/-- Behind a number stands no more of it, where an item or a value ends. -/
theorem ends_lineBreak (layout : Layout) (depth : Nat) {c : Char}
    (ends : Numeral.Ends (c :: text)) : Numeral.Ends (layout.lineBreak depth ++ c :: text) := by
  cases layout with
  | line => exact ends
  | indented step =>
      intro d first
      obtain rfl : '\n' = d := Option.some.inj first
      decide

/-- The colon behind a key is found, and the value behind it. -/
theorem skip_colon (layout : Layout) (begins : Begins text) :
    ∃ more, skip (layout.colon ++ text) = ':' :: more ∧ skip more = text := by
  cases layout with
  | line => exact ⟨text, rfl, skip_of_begins begins⟩
  | indented step => exact ⟨' ' :: text, rfl, skip_of_begins begins⟩

/-! ## Values -/

section

variable {fuel : Nat} {text behind more : List Char} {key : String} {read : Json}
  {reads : List Json} {written : List (String × Json)} (done : value fuel text = some (read, behind))

include done

theorem items_last (closes : skip behind = ']' :: rest) :
    items (fuel + 1) text = some ([read], rest) := by
  simp only [items, done, closes]

theorem items_next (comma : skip behind = ',' :: more)
    (later : items fuel (skip more) = some (reads, rest)) :
    items (fuel + 1) text = some (read :: reads, rest) := by
  simp only [items, done, comma, later, Option.map_some]

theorem members_last (layout : Layout) (closes : skip behind = '}' :: rest) :
    members (fuel + 1) (quote key ++ (layout.colon ++ text)) = some ([(key, read)], rest) := by
  obtain ⟨value, colon, found⟩ := skip_colon layout (begins_of_value done)
  simp only [quote, List.cons_append, List.append_assoc, List.nil_append, members,
    stringBody_escaped, colon, found, done, closes, String.ofList_toList]

theorem members_next (layout : Layout) (comma : skip behind = ',' :: more)
    (later : members fuel (skip more) = some (written, rest)) :
    members (fuel + 1) (quote key ++ (layout.colon ++ text)) =
      some ((key, read) :: written, rest) := by
  obtain ⟨value, colon, found⟩ := skip_colon layout (begins_of_value done)
  simp only [quote, List.cons_append, List.append_assoc, List.nil_append, members,
    stringBody_escaped, colon, found, done, comma, later, Option.map_some, String.ofList_toList]

omit done in
theorem value_array (skipped : skip behind = text) (begins : Begins text)
    (found : items fuel text = some (reads, rest)) :
    value (fuel + 1) ('[' :: behind) = some (.array reads, rest) := by
  obtain ⟨c, more, rfl, -, other⟩ := begins
  simp [value, skipped, other, found]

omit done in
theorem value_object (skipped : skip behind = quote key ++ text)
    (found : members fuel (quote key ++ text) = some (written, rest)) :
    value (fuel + 1) ('{' :: behind) = some (.object (Members.ofList written), rest) := by
  rw [quote, List.cons_append] at skipped found
  generalize key.toList.flatMap escapeChar ++ ['"'] ++ text = more at skipped found
  simp [value, skipped, found]

end

/-- A value is read back from its text, however it is set out and whatever stands behind it. -/
def ReadsBack (v : Json) : Prop :=
  ∀ (layout : Layout) (depth fuel : Nat) (rest : List Char),
    (render layout depth v).length < fuel → Numeral.Ends rest →
      value fuel (render layout depth v ++ rest) = some (v.legible, rest)

theorem ReadsBack.begins {v : Json} (readsBack : v.ReadsBack) (layout : Layout) (depth : Nat)
    (rest : List Char) : Begins (render layout depth v ++ rest) := by
  obtain ⟨c, more, text, notSpace, notBracket⟩ :=
    begins_of_value (readsBack layout depth _ [] (Nat.lt_succ_self _) nofun)
  rw [List.append_nil] at text
  exact ⟨c, more ++ rest, by rw [text, List.cons_append], notSpace, notBracket⟩

variable {v : Json} (layout : Layout) (depth outer : Nat)

theorem ends_cons (other : c.isDigit = false ∧ c ≠ '.' ∧ c ≠ 'e' ∧ c ≠ 'E') :
    Numeral.Ends (c :: rest) := by
  rintro d first
  obtain rfl : c = d := Option.some.inj first
  exact other

theorem ends_renderItems (items : List Json) (ends : Numeral.Ends rest) :
    Numeral.Ends (renderItems layout depth items ++ rest) := by
  cases items with
  | nil => exact ends
  | cons item items => exact ends_cons (by decide)

theorem ends_renderMembers (members : List (String × Json)) (ends : Numeral.Ends rest) :
    Numeral.Ends (renderMembers layout depth members ++ rest) := by
  cases members with
  | nil => exact ends
  | cons member members => exact ends_cons (by decide)

theorem skip_renderItems {behind : List Char} (item : Json) (items : List Json) :
    skip (renderItems layout depth (item :: items) ++ behind) =
      ',' :: (layout.lineBreak depth ++ (render layout depth item ++
        (renderItems layout depth items ++ behind))) := by
  simp only [renderItems, List.cons_append, List.append_assoc]
  rfl

theorem skip_renderMembers {behind : List Char} (key : String) (value : Json)
    (members : List (String × Json)) :
    skip (renderMembers layout depth ((key, value) :: members) ++ behind) =
      ',' :: (layout.lineBreak depth ++ (quote key ++ (layout.colon ++ (render layout depth value ++
        (renderMembers layout depth members ++ behind))))) := by
  simp only [renderMembers, List.cons_append, List.append_assoc]
  rfl

/-- The items of an array are read back, up to its closing bracket. -/
theorem items_render (rest : List Char) {items : List Json} (each : ∀ item ∈ items, item.ReadsBack)
    (first : v.ReadsBack) {fuel : Nat}
    (enough : (render layout depth v).length + (renderItems layout depth items).length + 1 < fuel) :
    Json.items fuel (render layout depth v ++ (renderItems layout depth items ++
      (layout.lineBreak outer ++ ']' :: rest))) = some (v.legible :: legibleItems items, rest) := by
  have closing : Numeral.Ends (layout.lineBreak outer ++ ']' :: rest) :=
    ends_lineBreak layout outer (ends_cons (by decide))
  have bracket : skip (layout.lineBreak outer ++ ']' :: rest) = ']' :: rest :=
    skip_lineBreak layout outer _
  generalize layout.lineBreak outer ++ ']' :: rest = behind at closing bracket ⊢
  induction items generalizing v fuel with
  | nil =>
      obtain ⟨fuel, rfl⟩ := Nat.exists_eq_add_one_of_ne_zero (Nat.ne_zero_of_lt enough)
      exact items_last (first layout depth fuel _ (by omega) closing) bracket
  | cons next items ih =>
      obtain ⟨fuel, rfl⟩ := Nat.exists_eq_add_one_of_ne_zero (Nat.ne_zero_of_lt enough)
      obtain ⟨second, each⟩ := List.forall_mem_cons.1 each
      have read := first layout depth fuel _ (by omega)
        (ends_renderItems layout depth (next :: items) closing)
      have begins := second.begins layout depth (renderItems layout depth items ++ behind)
      have found := (skip_lineBreak layout depth _).trans (skip_of_begins begins)
      simp only [renderItems, List.length_cons, List.length_append] at enough
      refine items_next read (skip_renderItems layout depth next items) ?_
      rw [found]
      exact ih each second (by omega)

/-- The members of an object are read back, up to its closing brace. -/
theorem members_render (key : String) (rest : List Char) {members : List (String × Json)}
    (each : ∀ member ∈ members, member.2.ReadsBack) (first : v.ReadsBack) {fuel : Nat}
    (enough :
      (render layout depth v).length + (renderMembers layout depth members).length + 1 < fuel) :
    Json.members fuel (quote key ++ (layout.colon ++ (render layout depth v ++
      (renderMembers layout depth members ++ (layout.lineBreak outer ++ '}' :: rest))))) =
      some ((key, v.legible) :: legibleMembers members, rest) := by
  have closing : Numeral.Ends (layout.lineBreak outer ++ '}' :: rest) :=
    ends_lineBreak layout outer (ends_cons (by decide))
  have brace : skip (layout.lineBreak outer ++ '}' :: rest) = '}' :: rest :=
    skip_lineBreak layout outer _
  generalize layout.lineBreak outer ++ '}' :: rest = behind at closing brace ⊢
  induction members generalizing v key fuel with
  | nil =>
      obtain ⟨fuel, rfl⟩ := Nat.exists_eq_add_one_of_ne_zero (Nat.ne_zero_of_lt enough)
      exact members_last (first layout depth fuel _ (by omega) closing) layout brace
  | cons next members ih =>
      obtain ⟨key', value'⟩ := next
      obtain ⟨fuel, rfl⟩ := Nat.exists_eq_add_one_of_ne_zero (Nat.ne_zero_of_lt enough)
      obtain ⟨second, each⟩ := List.forall_mem_cons.1 each
      have read := first layout depth fuel _ (by omega)
        (ends_renderMembers layout depth ((key', value') :: members) closing)
      simp only [renderMembers, List.length_cons, List.length_append] at enough
      refine members_next read layout (skip_renderMembers layout depth key' value' members) ?_
      rw [skip_lineBreak]
      exact ih key' (v := value') each second (by omega)

/-- **Every value is read back from its text**, as what a text keeps of it. -/
theorem Keyed.readsBack (keyed : v.Keyed) : v.ReadsBack := by
  induction keyed with
  | null =>
      intro layout depth fuel rest enough ends
      obtain ⟨fuel, rfl⟩ := Nat.exists_eq_add_one_of_ne_zero (Nat.ne_zero_of_lt enough)
      simp [render, value, legible]
  | bool b =>
      intro layout depth fuel rest enough ends
      obtain ⟨fuel, rfl⟩ := Nat.exists_eq_add_one_of_ne_zero (Nat.ne_zero_of_lt enough)
      cases b <;> simp [render, value, legible]
  | number x =>
      intro layout depth fuel rest enough ends
      obtain ⟨fuel, rfl⟩ := Nat.exists_eq_add_one_of_ne_zero (Nat.ne_zero_of_lt enough)
      cases finite : x.isFinite with
      | true => simp [render, legible, finite, value_chars finite ends]
      | false => simp [render, value, legible, finite]
  | string s =>
      intro layout depth fuel rest enough ends
      obtain ⟨fuel, rfl⟩ := Nat.exists_eq_add_one_of_ne_zero (Nat.ne_zero_of_lt enough)
      simp [render, quote, value, legible, stringBody_escaped]
  | @array items each ih =>
      intro layout depth fuel rest enough ends
      obtain ⟨fuel, rfl⟩ := Nat.exists_eq_add_one_of_ne_zero (Nat.ne_zero_of_lt enough)
      cases items with
      | nil => simp [render, value, legible, legibleItems, skip, isSpace]
      | cons item items =>
          obtain ⟨first, others⟩ := List.forall_mem_cons.1 ih
          simp only [render, List.length_cons, List.length_append] at enough
          have begins := first.begins layout (depth + 1) (renderItems layout (depth + 1) items ++
            (layout.lineBreak depth ++ ']' :: rest))
          have enough' : (render layout (depth + 1) item).length +
              (renderItems layout (depth + 1) items).length + 1 < fuel := by omega
          have found := items_render layout (depth + 1) depth rest others first enough'
          have skipped := (skip_lineBreak layout (depth + 1) _).trans (skip_of_begins begins)
          have read := value_array skipped begins found
          simpa only [render, legible, legibleItems, List.cons_append, List.append_assoc,
            List.nil_append] using read
  | @object members keyed each ih =>
      intro layout depth fuel rest enough ends
      obtain ⟨fuel, rfl⟩ := Nat.exists_eq_add_one_of_ne_zero (Nat.ne_zero_of_lt enough)
      cases members with
      | nil => simp [render, value, legible, legibleMembers, skip, isSpace]
      | cons member members =>
          obtain ⟨key, value'⟩ := member
          obtain ⟨first, others⟩ := List.forall_mem_cons.1 ih
          change value'.ReadsBack at first
          simp only [render, List.length_cons, List.length_append] at enough
          have enough' : (render layout (depth + 1) value').length +
              (renderMembers layout (depth + 1) members).length + 1 < fuel := by omega
          have found := members_render layout (depth + 1) depth key rest others first enough'
          have skipped := skip_lineBreak layout (depth + 1) (quote key ++ (layout.colon ++
            (render layout (depth + 1) value' ++ (renderMembers layout (depth + 1) members ++
              (layout.lineBreak depth ++ '}' :: rest)))))
          have read := value_object skipped found
          have same := (keyed_legibleMembers keyed).ofList_eq
          rw [legibleMembers] at same
          simpa only [render, legible, legibleMembers, List.cons_append, List.append_assoc,
            List.nil_append, same] using read

/-! ## Whole texts -/

/-- **A JSON text parses to what it keeps of its value**, in any layout. -/
theorem parse?_render (keyed : v.Keyed) :
    parse? (render layout depth v) = some v.legible := by
  have readsBack := keyed.readsBack
  have begins := readsBack.begins layout depth []
  have read := readsBack layout depth (2 * (render layout depth v).length + 2) [] (by omega) nofun
  have nothing : skip [] = [] := rfl
  rw [List.append_nil] at begins read
  simp only [parse?, skip_of_begins begins, read, nothing, if_true]

theorem parse?_indented (step : Nat) (keyed : v.Keyed) :
    parse? (v.indented step).toList = some v.legible := by
  rw [indented, String.toList_ofList]
  exact parse?_render (.indented step) 0 keyed

end Json

end ManualTraffic
