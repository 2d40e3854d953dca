import QuizPages.Proofs.Json.Token

/-!
# Reading back values

A value without binary64 numbers is read back from what is written for it, in both layouts, if its whole
numbers fit 64 bits and it is not nested too deep: `read?_render`. The induction is on the value: what is
written for it is read in front of anything that does not go on with a number (`ReadsBack`).
-/

namespace QuizPages.Json

/-- Whether a value is nested at most `depth` deep and all its numbers are whole and fit 64 bits. -/
inductive Readable : (depth : Nat) → Json → Prop
  | null {depth : Nat} : Readable depth .null
  | bool {depth : Nat} (value : Bool) : Readable depth (.bool value)
  | int {depth : Nat} {value : Int} (fits : fits64 value) : Readable depth (.int value)
  | str {depth : Nat} (text : Text) : Readable depth (.str text)
  | arr {depth : Nat} {items : List Json} (each : ∀ j ∈ items, Readable depth j) :
    Readable (depth + 1) (.arr items)
  | obj {depth : Nat} {members : List (Text × Json)} (each : ∀ m ∈ members, Readable depth m.2) :
    Readable (depth + 1) (.obj members)

/-! ## Blanks -/

theorem skipBlanks_cons {c : Char} (plain : isBlank c = false) (t : Text) :
    skipBlanks (c :: t) = c :: t :=
  List.dropWhile_cons_of_neg (by simp [plain])

theorem isBlank_of_mem_breakLine {layout : Layout} {level : Nat} {c : Char}
    (h : c ∈ breakLine layout level) : isBlank c = true := by
  cases layout with
  | compact => cases h
  | indented =>
    rcases List.mem_cons.1 h with rfl | blank
    · rfl
    · rw [List.eq_of_mem_replicate blank]
      rfl

/-- The start of a line is passed over. -/
theorem skipBlanks_breakLine (layout : Layout) (level : Nat) (t : Text) :
    skipBlanks (breakLine layout level ++ t) = skipBlanks t :=
  List.dropWhile_append_of_pos fun _ => isBlank_of_mem_breakLine

theorem skipBlanks_colon (layout : Layout) (t : Text) :
    ∃ r, skipBlanks (colon layout ++ t) = ':' :: r ∧ skipBlanks r = skipBlanks t := by
  cases layout with
  | compact => exact ⟨t, rfl, rfl⟩
  | indented => exact ⟨' ' :: t, rfl, rfl⟩

theorem endsNumber_cons {c : Char} (digit : c.isDigit = false) (point : c ≠ '.') (lower : c ≠ 'e')
    (upper : c ≠ 'E') (t : Text) : EndsNumber (c :: t) := by
  intro d same
  obtain rfl := Option.some.inj same
  exact ⟨digit, point, lower, upper⟩

/-- No number goes on behind the start of a line, nor in front of what closes a value. -/
theorem endsNumber_breakLine (layout : Layout) (level : Nat) {t : Text} (ends : EndsNumber t) :
    EndsNumber (breakLine layout level ++ t) := by
  cases layout with
  | compact => exact ends
  | indented => exact endsNumber_cons (by decide) (by decide) (by decide) (by decide) _

/-! ## What a value starts with -/

/-- Whether a text starts with neither a blank nor the end of an array. -/
def StartsValue (t : Text) : Prop := ∃ c s, t = c :: s ∧ isBlank c = false ∧ c ≠ ']'

theorem StartsValue.append {t : Text} (h : StartsValue t) (rest : Text) : StartsValue (t ++ rest) := by
  obtain ⟨c, s, rfl, plain, other⟩ := h
  exact ⟨c, s ++ rest, rfl, plain, other⟩

theorem StartsValue.skipBlanks {t : Text} (h : StartsValue t) : skipBlanks t = t := by
  obtain ⟨c, s, rfl, plain, -⟩ := h
  exact skipBlanks_cons plain s

theorem exists_digit_cons (n : Nat) : ∃ c s, Text.ofNat n = c :: s ∧ c.isDigit = true := by
  obtain ⟨c, s, first⟩ := List.exists_cons_of_ne_nil (l := Text.ofNat n) Nat.toDigits_ne_nil
  exact ⟨c, s, first, Text.isDigit_of_mem_ofNat (first ▸ List.mem_cons_self)⟩

theorem startsValue_ofNat (n : Nat) : StartsValue (Text.ofNat n) := by
  obtain ⟨c, s, first, digit⟩ := exists_digit_cons n
  refine ⟨c, s, first, ?_, ?_⟩
  · rw [← Bool.not_eq_true]
    intro blank
    simp only [isBlank, Bool.or_eq_true, beq_iff_eq] at blank
    rcases blank with ((rfl | rfl) | rfl) | rfl <;> cases digit
  · rintro rfl
    cases digit

theorem startsValue_write {depth : Nat} {j : Json} (h : Readable depth j) (layout : Layout)
    (level : Nat) : StartsValue (write layout level j) := by
  have mark : ∀ {c : Char} (s : Text), isBlank c = false → c ≠ ']' → StartsValue (c :: s) :=
    fun s plain other => ⟨_, s, rfl, plain, other⟩
  cases h with
  | null => exact mark _ (by decide) (by decide)
  | bool value => cases value <;> exact mark _ (by decide) (by decide)
  | @int _ value =>
    rw [write]
    cases value with
    | ofNat n => exact startsValue_ofNat n
    | negSucc n => exact mark _ (by decide) (by decide)
  | str text => exact mark _ (by decide) (by decide)
  | @arr _ items => cases items <;> exact mark _ (by decide) (by decide)
  | @obj _ members => cases members <;> exact mark _ (by decide) (by decide)

/-! ## Steps of the reader -/

section Steps

variable {fuel depth : Nat} {j : Json} {name t r r' rest : Text} {items : List Json}
  {members : List (Text × Json)}

theorem readItems_last (first : readValue fuel depth t = some (j, r))
    (close : skipBlanks r = ']' :: rest) : readItems (fuel + 1) depth t = some ([j], rest) := by
  rw [readItems, first]
  simp only [Option.bind_eq_bind, Option.bind_some, close]

theorem readItems_more (first : readValue fuel depth t = some (j, r))
    (comma : skipBlanks r = ',' :: r')
    (later : readItems fuel depth (skipBlanks r') = some (items, rest)) :
    readItems (fuel + 1) depth t = some (j :: items, rest) := by
  rw [readItems, first]
  simp only [Option.bind_eq_bind, Option.bind_some, comma, later]

theorem readValue_arr (opened : StartsValue (skipBlanks t))
    (all : readItems fuel depth (skipBlanks t) = some (items, rest)) :
    readValue (fuel + 1) (depth + 1) ('[' :: t) = some (.arr items, rest) := by
  obtain ⟨c, s, first, -, other⟩ := opened
  rw [readValue]
  rw [first] at all ⊢
  split
  · rename_i same
    exact absurd (List.cons_eq_cons.1 same).1 other
  · rw [all]
    rfl

theorem readMembers_last {s : Text} (named : readString t = some (name, r))
    (colon : skipBlanks r = ':' :: r')
    (first : readValue fuel depth (skipBlanks r') = some (j, s))
    (close : skipBlanks s = '}' :: rest) :
    readMembers (fuel + 1) depth ('"' :: t) = some ([(name, j)], rest) := by
  rw [readMembers, named]
  simp only [Option.bind_eq_bind, Option.bind_some, colon, first, close]

theorem readMembers_more {s s' : Text} (named : readString t = some (name, r))
    (colon : skipBlanks r = ':' :: r')
    (first : readValue fuel depth (skipBlanks r') = some (j, s))
    (comma : skipBlanks s = ',' :: s')
    (later : readMembers fuel depth (skipBlanks s') = some (members, rest)) :
    readMembers (fuel + 1) depth ('"' :: t) = some ((name, j) :: members, rest) := by
  rw [readMembers, named]
  simp only [Option.bind_eq_bind, Option.bind_some, colon, first, comma, later]

theorem readValue_obj (opened : skipBlanks t = '"' :: r)
    (all : readMembers fuel depth ('"' :: r) = some (members, rest)) :
    readValue (fuel + 1) (depth + 1) ('{' :: t) = some (.obj members, rest) := by
  rw [readValue, opened]
  show (readMembers fuel depth ('"' :: r)).bind _ = _
  rw [all]
  rfl

/-- A text that starts with a digit is a number. -/
theorem readValue_of_digit {c : Char} (digit : c.isDigit = true) :
    readValue (fuel + 1) depth (c :: t) = readNumber false (c :: t) := by
  rw [readValue]
  all_goals
    intros
    rename_i same
    obtain ⟨rfl, -⟩ := List.cons_eq_cons.1 same
    cases digit

end Steps

/-! ## Values -/

/-- Whether a value is read back from what is written for it at any level, in front of anything that does
not go on with a number. -/
def ReadsBack (layout : Layout) (depth : Nat) (j : Json) : Prop :=
  ∀ (level fuel : Nat) (rest : Text), EndsNumber rest → (write layout level j).length ≤ fuel →
    readValue fuel depth (write layout level j ++ rest) = some (j, rest)

theorem readsBack_int {layout : Layout} {depth : Nat} {value : Int} (fits : fits64 value) :
    ReadsBack layout depth (.int value) := by
  intro level fuel rest ends enough
  cases value with
  | ofNat n =>
    obtain ⟨c, s, first, digit⟩ := exists_digit_cons n
    have written : write layout level (.int (.ofNat n)) = Text.ofNat n := by rw [write, writeInt]
    rw [written] at enough ⊢
    obtain ⟨fuel, rfl⟩ : ∃ m, fuel = m + 1 := ⟨fuel - 1, by simp [first] at enough; omega⟩
    have number := readNumber_ofNat false n ends
    rw [wholeNumber_ofNat fits] at number
    rw [first] at number ⊢
    exact (readValue_of_digit digit).trans number
  | negSucc n =>
    have written : write layout level (.int (.negSucc n)) = '-' :: Text.ofNat (n + 1) := by
      rw [write, writeInt]
    rw [written] at enough ⊢
    obtain ⟨fuel, rfl⟩ : ∃ m, fuel = m + 1 := ⟨fuel - 1, by simp at enough; omega⟩
    have number := readNumber_ofNat true (n + 1) ends
    rw [wholeNumber_neg fits] at number
    rw [List.cons_append, readValue]
    exact number

section Nested

variable {layout : Layout} {depth : Nat} (up : Nat) (rest : Text)

/-- The items of an array are read back through the closing bracket. -/
theorem readItems_write {level : Nat} {j : Json} {items : List Json} {fuel : Nat}
    (readable : ∀ k ∈ j :: items, Readable depth k)
    (each : ∀ k ∈ j :: items, ReadsBack layout depth k)
    (enough : (write layout level j ++ writeItems layout level items).length < fuel) :
    readItems fuel depth (write layout level j ++ (writeItems layout level items ++
      (breakLine layout up ++ ']' :: rest))) = some (j :: items, rest) := by
  induction items generalizing j fuel with
  | nil =>
    obtain ⟨fuel, rfl⟩ : ∃ m, fuel = m + 1 := ⟨fuel - 1, by omega⟩
    rw [writeItems, List.append_nil] at enough
    rw [writeItems, List.nil_append]
    apply readItems_last
    · apply each j List.mem_cons_self
      · apply endsNumber_breakLine
        exact endsNumber_cons (by decide) (by decide) (by decide) (by decide) rest
      · omega
    · rw [skipBlanks_breakLine]
      exact skipBlanks_cons (by decide) rest
  | cons k items ih =>
    obtain ⟨fuel, rfl⟩ : ∃ m, fuel = m + 1 := ⟨fuel - 1, by omega⟩
    rw [writeItems] at enough ⊢
    simp only [List.length_append, List.length_cons] at enough
    rw [List.append_assoc, List.append_assoc, List.cons_append]
    have starts := startsValue_write (readable k (by simp)) layout level
    apply readItems_more
    · apply each j List.mem_cons_self
      · exact endsNumber_cons (by decide) (by decide) (by decide) (by decide) _
      · omega
    · exact skipBlanks_cons (by decide) _
    · rw [skipBlanks_breakLine, (starts.append _).skipBlanks]
      apply ih
      · exact fun m mem => readable m (List.mem_cons_of_mem j mem)
      · exact fun m mem => each m (List.mem_cons_of_mem j mem)
      · rw [List.length_append]
        omega

/-- One member in front of a text. -/
theorem writeMember_append (layout : Layout) (level : Nat) (m : Text × Json) (t : Text) :
    writeMember layout level m ++ t =
      '"' :: (m.1.flatMap escapeChar ++ '"' :: (colon layout ++ (write layout level m.2 ++ t))) := by
  obtain ⟨name, value⟩ := m
  rw [writeMember, quote]
  simp only [List.cons_append, List.append_assoc, List.nil_append]

/-- The name and the value of a member are read back. -/
theorem exists_read_member {level fuel : Nat} {m : Text × Json} {tail : Text}
    (readable : Readable depth m.2) (each : ReadsBack layout depth m.2) (ends : EndsNumber tail)
    (enough : (writeMember layout level m).length ≤ fuel) :
    ∃ t r r', writeMember layout level m ++ tail = '"' :: t ∧ readString t = some (m.1, r) ∧
      skipBlanks r = ':' :: r' ∧ readValue fuel depth (skipBlanks r') = some (m.2, tail) := by
  have starts := startsValue_write readable layout level
  obtain ⟨r', colon, after⟩ := skipBlanks_colon layout (write layout level m.2 ++ tail)
  rw [(starts.append tail).skipBlanks] at after
  refine ⟨_, _, r', writeMember_append layout level m tail, readString_quote _ _, colon, ?_⟩
  rw [after]
  apply each level fuel tail ends
  rw [← List.append_nil (writeMember layout level m), writeMember_append] at enough
  simp only [List.length_cons, List.length_append] at enough
  omega

/-- The members of an object are read back through the closing brace. -/
theorem readMembers_write {level : Nat} {m : Text × Json} {members : List (Text × Json)} {fuel : Nat}
    (readable : ∀ x ∈ m :: members, Readable depth x.2)
    (each : ∀ x ∈ m :: members, ReadsBack layout depth x.2)
    (enough : (writeMember layout level m ++ writeMembers layout level members).length < fuel) :
    readMembers fuel depth (writeMember layout level m ++ (writeMembers layout level members ++
      (breakLine layout up ++ '}' :: rest))) = some (m :: members, rest) := by
  induction members generalizing m fuel with
  | nil =>
    obtain ⟨fuel, rfl⟩ : ∃ n, fuel = n + 1 := ⟨fuel - 1, by omega⟩
    rw [writeMembers, List.append_nil] at enough
    rw [writeMembers, List.nil_append]
    have ends : EndsNumber (breakLine layout up ++ '}' :: rest) := by
      apply endsNumber_breakLine
      exact endsNumber_cons (by decide) (by decide) (by decide) (by decide) rest
    obtain ⟨t, r, r', whole, named, colon, first⟩ :=
      exists_read_member (readable m List.mem_cons_self) (each m List.mem_cons_self) ends
        (Nat.le_of_lt_succ enough)
    rw [whole]
    apply readMembers_last named colon first
    rw [skipBlanks_breakLine]
    exact skipBlanks_cons (by decide) rest
  | cons x members ih =>
    obtain ⟨fuel, rfl⟩ : ∃ n, fuel = n + 1 := ⟨fuel - 1, by omega⟩
    rw [writeMembers] at enough ⊢
    simp only [List.length_append, List.length_cons] at enough
    rw [List.append_assoc, List.append_assoc, List.cons_append]
    have ends : EndsNumber (',' :: (breakLine layout level ++ (writeMember layout level x ++
        (writeMembers layout level members ++ (breakLine layout up ++ '}' :: rest))))) :=
      endsNumber_cons (by decide) (by decide) (by decide) (by decide) _
    have fits : (writeMember layout level m).length ≤ fuel := by omega
    obtain ⟨t, r, r', whole, named, colon, first⟩ :=
      exists_read_member (readable m List.mem_cons_self) (each m List.mem_cons_self) ends fits
    rw [whole]
    apply readMembers_more named colon first (skipBlanks_cons (by decide) _)
    have opened : skipBlanks (breakLine layout level ++ (writeMember layout level x ++
        (writeMembers layout level members ++ (breakLine layout up ++ '}' :: rest)))) =
        writeMember layout level x ++
          (writeMembers layout level members ++ (breakLine layout up ++ '}' :: rest)) := by
      rw [skipBlanks_breakLine, writeMember_append]
      exact skipBlanks_cons (by decide) _
    rw [opened]
    apply ih
    · exact fun y mem => readable y (List.mem_cons_of_mem m mem)
    · exact fun y mem => each y (List.mem_cons_of_mem m mem)
    · rw [List.length_append]
      omega

end Nested

theorem readsBack_of_readable {depth : Nat} {j : Json} (h : Readable depth j) (layout : Layout) :
    ReadsBack layout depth j := by
  induction h with
  | int fits => exact readsBack_int fits
  | null =>
    intro level fuel rest _ enough
    obtain ⟨fuel, rfl⟩ : ∃ m, fuel = m + 1 := ⟨fuel - 1, by simp [write] at enough; omega⟩
    rw [write]
    rfl
  | bool value =>
    intro level fuel rest _ enough
    cases value <;> rw [write] at enough ⊢ <;>
      obtain ⟨fuel, rfl⟩ : ∃ m, fuel = m + 1 := ⟨fuel - 1, by simp at enough; omega⟩ <;>
      rfl
  | str text =>
    intro level fuel rest _ enough
    rw [write, quote] at enough ⊢
    obtain ⟨fuel, rfl⟩ : ∃ m, fuel = m + 1 := ⟨fuel - 1, by simp at enough; omega⟩
    have read := readString_quote text rest
    rw [List.cons_append, List.cons_append, List.append_assoc, List.singleton_append, readValue, read]
    rfl
  | @arr depth items readable ih =>
    intro level fuel rest _ enough
    cases items with
    | nil =>
      rw [write] at enough ⊢
      obtain ⟨fuel, rfl⟩ : ∃ m, fuel = m + 1 := ⟨fuel - 1, by simp at enough; omega⟩
      rfl
    | cons j items =>
      rw [write] at enough ⊢
      simp only [List.cons_append, List.append_assoc, List.length_cons, List.length_append] at enough ⊢
      obtain ⟨fuel, rfl⟩ : ∃ m, fuel = m + 1 := ⟨fuel - 1, by omega⟩
      have starts := startsValue_write (readable j List.mem_cons_self) layout (level + 1)
      apply readValue_arr
      · rw [skipBlanks_breakLine, (starts.append _).skipBlanks]
        exact starts.append _
      · rw [skipBlanks_breakLine, (starts.append _).skipBlanks, List.nil_append]
        apply readItems_write level rest readable ih
        rw [List.length_append]
        omega
  | @obj depth members readable ih =>
    intro level fuel rest _ enough
    cases members with
    | nil =>
      rw [write] at enough ⊢
      obtain ⟨fuel, rfl⟩ : ∃ m, fuel = m + 1 := ⟨fuel - 1, by simp at enough; omega⟩
      rfl
    | cons m members =>
      rw [write] at enough ⊢
      simp only [List.cons_append, List.append_assoc, List.length_cons, List.length_append] at enough ⊢
      obtain ⟨fuel, rfl⟩ : ∃ n, fuel = n + 1 := ⟨fuel - 1, by omega⟩
      have fits : (writeMember layout (level + 1) m ++
          writeMembers layout (level + 1) members).length < fuel := by
        rw [List.length_append]
        omega
      have all := readMembers_write level rest readable ih fits
      rw [writeMember_append] at all ⊢
      refine readValue_obj ?_ all
      rw [skipBlanks_breakLine, skipBlanks_cons (by decide)]
      rfl

/-- **Round trip**: a value is read back from the text that is written for it. -/
theorem read?_render {j : Json} (h : Readable maxDepth j) (layout : Layout) :
    read? (render layout j) = some j := by
  have starts := startsValue_write h layout 0
  have read := readsBack_of_readable h layout 0 (2 * (write layout 0 j).length + 2) [] endsNumber_nil
    (by omega)
  rw [List.append_nil] at read
  rw [read?, render, starts.skipBlanks, read]
  rfl

end QuizPages.Json
