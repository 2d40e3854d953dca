import QuizPages.Proofs.Page.Reading
import QuizPages.Proofs.Text.Ascii

/-!
# What a reading tells of a file

A file is read unless it is too large, holds a NUL near its start or may not be mended: `Readable`.
What is read is the whole content, and what is replaced in it leaves its ASCII alone, so line feeds
and markers are where they are on disk. A file that is passed over has its one warning as the
reason: `Reading.tells_file`.
-/

namespace QuizPages

/-- A text that has the ASCII of a content and no other, with the line feeds and markers that the
content has, each marker behind as many line feeds. -/
structure Utf8.KeepsAscii (content : Octets) (text : Text) : Prop where
  ascii : Text.octets (text.filter (·.toNat < 0x80)) = content.filter (· < 0x80)
  feeds : text.feeds = content.count 10
  markers : (Marker.occurrences text).map (fun o => (o.marker, text.feedsBefore o.offset)) =
    Marker.inOctets 0 content

theorem Utf8.keepsAscii_decode (content : Octets) : KeepsAscii content (decode content) where
  ascii := (alike_decode content).ascii_eq
  feeds := (alike_decode content).feeds_eq
  markers := (alike_decode content).markers_eq

namespace Reading

/-- When a content is read. -/
structure Readable (options : Options) (content : Octets) : Prop where
  within : content.length ≤ options.limit
  textual : 0 ∉ content.take 8192
  mendable : (∃ text : Text, text.octets = content) ∨ options.replacing = true

/-- What a reading tells of a file with a content. -/
structure Tells (options : Options) (content : Octets) (r : Reading) : Prop where
  readable : r.text?.isSome ↔ Readable options content
  size : ∀ text, r.text? = some text → r.size? = some content.length ∧ r.skippedReason? = none
  ascii : ∀ text, r.text? = some text → Utf8.KeepsAscii content text
  /-- UTF-8 is read as it is. -/
  whole : ∀ text, r.text? = some text → (∃ s : Text, s.octets = content) →
    text.octets = content ∧ r.warnings = [] ∧ r.replaced = false
  /-- Pieces of anything else are replaced, and one warning says so. -/
  mended : ∀ text, r.text? = some text → (¬ ∃ s : Text, s.octets = content) →
    (∃ w, r.warnings = [w] ∧ w.code = "LOSSY_CONVERSION") ∧ r.replaced = true
  /-- Why there is no text is the one warning. -/
  skipped : r.text? = none →
    ∃ w, r.warnings = [w] ∧ r.skippedReason? = some w.message ∧ r.size? = none

variable {options : Options} {content : Octets}

theorem tells_skipped (h : ¬ Readable options content) (reason : Skip) :
    Tells options content (.skipped reason) where
  readable := iff_of_false Bool.false_ne_true h
  size _ told := nomatch told
  ascii _ told := nomatch told
  whole _ told := nomatch told
  mended _ told := nomatch told
  skipped _ := ⟨_, rfl, rfl, rfl⟩

theorem tells_whole (h : Readable options content) (valid : Utf8.isValid content = true) :
    Tells options content (.loaded (Utf8.decode content) content.length false) where
  readable := iff_of_true rfl h
  size _ _ := ⟨rfl, rfl⟩
  ascii := by
    rintro _ ⟨⟩
    exact Utf8.keepsAscii_decode content
  whole := by
    rintro _ ⟨⟩ -
    exact ⟨Utf8.octets_decode_of_isValid valid, rfl, rfl⟩
  mended _ _ malformed := absurd (Utf8.isValid_iff.1 valid) malformed
  skipped untold := nomatch untold

theorem tells_mended (h : Readable options content) (malformed : ¬ Utf8.isValid content = true) :
    Tells options content (.loaded (Utf8.decode content) content.length true) where
  readable := iff_of_true rfl h
  size _ _ := ⟨rfl, rfl⟩
  ascii := by
    rintro _ ⟨⟩
    exact Utf8.keepsAscii_decode content
  whole _ _ valid := absurd (Utf8.isValid_iff.2 valid) malformed
  mended _ _ _ := ⟨⟨_, rfl, rfl⟩, rfl⟩
  skipped untold := nomatch untold

theorem tells_ofOctets (within : content.length ≤ options.limit) :
    Tells options content (ofOctets options content) := by
  unfold ofOctets
  by_cases binary : (content.take probed).contains 0 = true
  · rw [if_pos binary]
    exact tells_skipped (fun readable => readable.textual (List.contains_iff_mem.1 binary)) _
  have textual : 0 ∉ content.take probed := fun mem => binary (List.contains_iff_mem.2 mem)
  rw [if_neg binary]
  by_cases valid : Utf8.isValid content = true
  · rw [if_pos valid]
    exact tells_whole ⟨within, textual, .inl (Utf8.isValid_iff.1 valid)⟩ valid
  rw [if_neg valid]
  by_cases replacing : options.replacing = true
  · rw [if_pos replacing]
    exact tells_mended ⟨within, textual, .inr replacing⟩ valid
  · rw [if_neg replacing]
    refine tells_skipped (fun readable => ?_) _
    exact readable.mendable.elim (fun text => valid (Utf8.isValid_iff.2 text)) replacing

/-- **Reading a file**: it is read exactly when it is readable, as a whole and with its ASCII where
it is on disk, and it is said what was replaced or why the file is passed over. -/
theorem tells_file {t : FileTree} {p : Path} {place : Place}
    (h : t.entryAt p = .ok (place, .file content)) (options : Options) :
    Tells options content (ofPath options t p) := by
  rw [ofPath_of_file h]
  by_cases oversized : options.limit < content.length
  · rw [if_pos oversized]
    exact tells_skipped (fun readable => Nat.not_le.2 oversized readable.within) _
  · rw [if_neg oversized]
    exact tells_ofOctets (Nat.not_lt.1 oversized)

/-- A file with a marker between two octets that are no UTF-8, and a line feed. -/
def mendedOctets : Octets := 0xE2 :: Marker.start.text.octets ++ [0xFF, 10]

def onePage : FileTree :=
  FileTree.empty.insert ["page"] (.file mendedOctets) (by decide)

theorem tells_onePage :
    onePage.entryAt ⟨"/page"⟩ = .ok (["page"], .file mendedOctets) ∧
    (ofPath {} onePage ⟨"/page"⟩).text? = some "\uFFFD<?quiz?>\uFFFD\n" ∧
      Tells {} mendedOctets (ofPath {} onePage ⟨"/page"⟩) := by
  have there : onePage.entryAt ⟨"/page"⟩ = .ok (["page"], .file mendedOctets) := rfl
  exact ⟨there, by decide +kernel, tells_file there {}⟩

end Reading
end QuizPages
