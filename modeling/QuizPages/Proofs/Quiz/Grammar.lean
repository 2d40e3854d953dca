import QuizPages.Proofs.Quiz.Fragment

/-!
# The grammar of quizzes

A list of lines is a quiz exactly if it is a question line, lines that are not `content:`, the
line `content:` and the content (`ofLines_eq_ok_iff`). All texts of a quiz are parts of the body
it is read from.
-/

namespace QuizPages.Quiz

/-- Whether a line goes before the content. -/
def beforeContent (line : Text) : Bool := line != contentMarker

theorem dropWhile_region {region : List Text} (free : contentMarker ∉ region)
    (content : List Text) :
    (region ++ contentMarker :: content).takeWhile beforeContent = region ∧
      (region ++ contentMarker :: content).dropWhile beforeContent = contentMarker :: content := by
  have before : ∀ l ∈ region, beforeContent l = true := fun l hl =>
    bne_iff_ne.2 fun e => free (e ▸ hl)
  have stops : beforeContent contentMarker = false := by simp [beforeContent]
  constructor
  · rw [List.takeWhile_append_of_pos before, List.takeWhile_cons_of_neg (by simp [stops]),
      List.append_nil]
  · rw [List.dropWhile_append_of_pos before, List.dropWhile_cons_of_neg (by simp [stops])]

theorem eq_of_dropWhile {lines content : List Text} {l : Text}
    (h : lines.dropWhile beforeContent = l :: content) :
    lines = lines.takeWhile beforeContent ++ contentMarker :: content ∧
      contentMarker ∉ lines.takeWhile beforeContent := by
  have stops : beforeContent l = false := by
    have := List.head?_dropWhile_not beforeContent lines
    simpa [h] using this
  have marker : l = contentMarker := by simpa [beforeContent] using stops
  refine ⟨?_, fun inside => ?_⟩
  · rw [← marker, ← h, List.takeWhile_append_dropWhile]
  · have all := List.all_takeWhile (p := beforeContent) (l := lines)
    have := List.all_eq_true.1 all _ inside
    simp [beforeContent] at this

/-- **Grammar**: which lines hold which quiz. -/
theorem ofLines_eq_ok_iff {lines : List Text} {q : Quiz} :
    ofLines lines = .ok q ↔
      ∃ region, lines = (questionLead ++ q.question) ::
          (region ++ contentMarker :: q.contentLines) ∧
        contentMarker ∉ region ∧ q.answers = region.filterMap answer? := by
  constructor
  · intro h
    rcases lines with - | ⟨first, rest⟩
    · cases h
    · simp only [ofLines] at h
      split at h
      · cases h
      · rename_i question found
        split at h
        · cases h
        · rename_i l content dropped
          obtain ⟨split_eq, free⟩ := eq_of_dropWhile dropped
          obtain rfl := Except.ok.inj h
          refine ⟨_, ?_, free, rfl⟩
          rw [Text.after?_eq_some_iff.1 found, ← split_eq]
  · rintro ⟨region, rfl, free, answers⟩
    have taken : (region ++ contentMarker :: q.contentLines).takeWhile (· != contentMarker) =
        region := (dropWhile_region free q.contentLines).1
    have dropped : (region ++ contentMarker :: q.contentLines).dropWhile (· != contentMarker) =
        contentMarker :: q.contentLines := (dropWhile_region free q.contentLines).2
    simp only [ofLines, Text.after?_append, taken, dropped, ← answers]

theorem text_isSuffix_of_answer? {line : Text} {a : Answer} (h : answer? line = some a) :
    a.text <:+ line := by
  unfold answer? at h
  split at h
  · rename_i t found
    obtain rfl := Option.some.inj h
    exact ⟨_, (Text.after?_eq_some_iff.1 found).symm⟩
  · obtain ⟨t, found, rfl⟩ := Option.map_eq_some_iff.1 h
    exact ⟨_, (Text.after?_eq_some_iff.1 found).symm⟩

/-- Each text of a quiz ends one of its lines. -/
theorem exists_line_of_mem_texts {lines : List Text} {q : Quiz} (h : ofLines lines = .ok q)
    {u : Text} (hu : u ∈ q.texts) : ∃ l ∈ lines, u <:+ l := by
  obtain ⟨region, rfl, -, answers⟩ := ofLines_eq_ok_iff.1 h
  simp only [texts, List.mem_cons, List.mem_append, List.mem_map] at hu
  obtain rfl | ⟨a, ha, rfl⟩ | hu := hu
  · exact ⟨_, List.mem_cons_self, List.suffix_append questionLead q.question⟩
  · rw [answers] at ha
    obtain ⟨l, hl, answer⟩ := List.mem_filterMap.1 ha
    exact ⟨l, by simp [hl], text_isSuffix_of_answer? answer⟩
  · exact ⟨u, by simp [hu], List.suffix_rfl⟩

theorem withoutEdges_subset (lines : List Text) : withoutEdges lines ⊆ lines := by
  intro l hl
  have := List.dropWhile_subset List.isEmpty (List.mem_reverse.1 hl)
  exact List.dropWhile_subset List.isEmpty (List.mem_reverse.1 this)

/-- The texts of a quiz are parts of the body it is read from. -/
theorem infix_of_mem_texts {body : Text} {q : Quiz} (h : parse body = .ok q) {u : Text}
    (hu : u ∈ q.texts) : u <:+: body := by
  obtain ⟨l, hl, ends⟩ := exists_line_of_mem_texts h hu
  exact ends.isInfix.trans (Text.infix_of_mem_lines (withoutEdges_subset _ hl))

/-- A fragment has only those markers that its block's body has. -/
theorem infix_body_of_html {m : Marker} {body : Text} {q : Quiz} (h : parse body = .ok q) {id : Nat}
    (hm : m.text <:+: q.html id) : m.text <:+: body := by
  obtain ⟨u, hu, inside⟩ := infix_html_iff.1 hm
  exact inside.trans (infix_of_mem_texts h hu)

end QuizPages.Quiz
