import QuizPages.Proofs.Page.FrontMatter
import QuizPages.Proofs.Page.LineOrder
import QuizPages.Proofs.Text.Utf8
import QuizPages.Reading

/-!
# Pages that are read

A file that is read has no more characters than the size limit allows octets, replaced pieces
included. So the lines of its page have numbers of 32 bits: `Page.numbersFit_of_reading`.
-/

namespace QuizPages

theorem Reading.eq_decode_of_loaded {options : Options} {content : Octets} {text : Text}
    {size : Nat} {replaced : Bool} (h : ofOctets options content = .loaded text size replaced) :
    text = Utf8.decode content := by
  unfold ofOctets at h
  split at h
  · cases h
  · split at h
    · cases h
      rfl
    · split at h
      · cases h
        rfl
      · cases h

/-- A file within the limit is read as its content. -/
theorem Reading.ofPath_of_file {t : FileTree} {path : Path} {place : Place} {content : Octets}
    (h : t.entryAt path = .ok (place, .file content)) (options : Options) :
    ofPath options t path =
      if options.limit < content.length then .skipped (.oversized content.length options.limit)
      else ofOctets options content := by
  have given : t.read path = .ok content := by
    rw [FileTree.read, h]
    rfl
  simp only [ofPath, h, given, sizeOf]

/-- A text that is read has no more characters than the limit allows octets. -/
theorem Reading.length_le {options : Options} {t : FileTree} {path : Path} {text : Text}
    {size : Nat} {replaced : Bool}
    (h : Reading.ofPath options t path = .loaded text size replaced) :
    text.length ≤ options.limit := by
  have refused {place : Place} {e : Entry} (found : t.entryAt path = .ok (place, e))
      (other : ∀ content, e ≠ .file content) : t.read path = .error .isDirectory := by
    rw [FileTree.read, found]
    rcases e with - | content | target
    · rfl
    · exact absurd rfl (other content)
    · rfl
  rcases found : t.entryAt path with e | ⟨place, directory | content | target⟩
  · simp [ofPath, found] at h
  · simp only [ofPath, found, refused found nofun] at h
    split at h <;> cases h
  · rw [ofPath_of_file found] at h
    split at h
    · cases h
    · rename_i within
      have shorter := Utf8.length_decode_le content
      rw [← eq_decode_of_loaded h] at shorter
      omega
  · simp only [ofPath, found, refused found nofun] at h
    split at h <;> cases h

/-- The lines of every page that is read have numbers of 32 bits. -/
theorem Page.numbersFit_of_reading {t : FileTree} {path : Path} {text : Text} {size : Nat}
    {replaced : Bool} (h : Reading.ofPath {} t path = .loaded text size replaced) (called : Text) :
    (Page.ofText called text).NumbersFit := by
  have length : text.length ≤ 16 * 1024 * 1024 := Reading.length_le h
  have whole := splitFrontMatter_append text
  have feeds : (splitFrontMatter text).1.feeds + (splitFrontMatter text).2.feeds ≤ text.length := by
    rw [← Block.feeds_append, whole]
    exact List.count_le_length
  have size : UInt32.size = 2 ^ 32 := rfl
  simp only [NumbersFit, ofText]
  omega

end QuizPages
