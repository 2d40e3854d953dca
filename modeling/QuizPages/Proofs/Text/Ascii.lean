import QuizPages.Proofs.Marker.Seam
import QuizPages.Proofs.Text.Utf8
import QuizPages.Text.Lines

/-!
# ASCII in what is decoded

No malformed piece holds an ASCII octet. So octets and the text they are decoded to are alike in
ASCII: `alike_decode`. The text then has the ASCII octets and no other ASCII (`Alike.ascii_eq`), as
many line feeds (`Alike.feeds_eq`) and the same markers, each behind as many line feeds
(`Alike.markers_eq`).
-/

namespace QuizPages

theorem Text.feeds_concat (before : Text) (c : Char) :
    (before ++ [c]).feeds = if c = '\n' then before.feeds + 1 else before.feeds := by
  unfold feeds
  rw [List.count_append, List.count_singleton]
  by_cases feed : c = '\n' <;> simp [feed]

namespace Marker

/-- The marker that octets start with. -/
def leadingOctets? (bs : Octets) : Option Marker :=
  [start, stop].find? (·.text.octets.isPrefixOf bs)

/-- Every marker that is written in octets, with the number of line feeds in front of it; `feeds`
are in front of the octets. -/
def inOctets (feeds : Nat) : Octets → List (Marker × Nat)
  | [] => []
  | b :: bs =>
    let later := inOctets (if b = 10 then feeds + 1 else feeds) bs
    match leadingOctets? (b :: bs) with
    | some m => (m, feeds) :: later
    | none => later

example : inOctets 0 ([0xFF, 10, 0xC3] ++ stop.text.octets) = [(stop, 1)] := by decide

/-- Every marker in a text that stands behind another one, with the line feeds in front of it. -/
def behind (before t : Text) : List (Marker × Nat) :=
  (occurrencesFrom before.size t).map fun o => (o.marker, (before ++ t).feedsBefore o.offset)

theorem behind_cons (before : Text) (c : Char) (t : Text) :
    behind before (c :: t) =
      match leading? (c :: t) with
      | some m => (m, before.feeds) :: behind (before ++ [c]) t
      | none => behind (before ++ [c]) t := by
  have whole : before ++ c :: t = before ++ [c] ++ t := by simp
  have further : before.size + c.utf8Size = (before ++ [c]).size := by simp
  unfold behind
  rw [occurrencesFrom, further, ← whole]
  cases leading? (c :: t) with
  | some m => rw [List.map_cons, Text.feedsBefore_size_append]
  | none => rfl

theorem ascii_of_mem_text {m : Marker} {c : Char} (h : c ∈ m.text) : c.toNat < 0x80 := by
  have all : m.text.all (·.toNat < 0x80) = true := by
    cases m <;> rfl
  exact of_decide_eq_true (List.all_eq_true.1 all c h)

end Marker

namespace Utf8

/-- Octets and a text that are alike in ASCII: an ASCII octet stands for its character, and octets
beyond ASCII stand for a character beyond ASCII. -/
inductive Alike : Octets → Text → Prop where
  | nil : Alike [] []
  | ascii {c : Char} {bs : Octets} {t : Text} (below : c.toNat < 0x80) (rest : Alike bs t) :
      Alike (UInt8.ofNat c.toNat :: bs) (c :: t)
  | beyond {c : Char} {run bs : Octets} {t : Text} (nonempty : run ≠ [])
      (high : ∀ b ∈ run, 0x80 ≤ b) (above : 0x80 ≤ c.toNat) (rest : Alike bs t) :
      Alike (run ++ bs) (c :: t)

theorem Completes.high {left : Nat} {low high : UInt8} {tail : Octets} (beyond : 0x80 ≤ low)
    (h : Completes left low high tail) : ∀ b ∈ tail, 0x80 ≤ b := by
  induction left generalizing low high tail with
  | zero =>
    obtain ⟨b, rfl, fits, -⟩ := h
    intro x mem
    rw [List.mem_singleton.1 mem]
    exact UInt8.le_trans beyond fits
  | succ left ih =>
    obtain ⟨b, rest, rfl, fits, -, later⟩ := h
    intro x mem
    rcases List.mem_cons.1 mem with rfl | mem
    · exact UInt8.le_trans beyond fits
    · exact ih (UInt8.le_refl _) later x mem

/-- The form of a character beyond ASCII has no ASCII octet. -/
theorem high_of_mem_encode {c : Char} (h : 0x80 ≤ c.toNat) :
    ∀ b ∈ String.utf8EncodeChar c, 0x80 ≤ b := by
  obtain ⟨a, tail, left, bits, low, high, form, first, completes⟩ := exists_first_of_high h
  obtain ⟨above, _, _, _, _, same, beyond⟩ := exists_owing_of_first first
  cases same
  rw [form]
  intro b mem
  rcases List.mem_cons.1 mem with rfl | mem
  · exact above
  · exact completes.high beyond b mem

theorem Reads.alike {bs : Octets} {ps : List (Option Char)} (h : Reads bs ps) :
    Alike bs (textOf ps) := by
  induction h with
  | nil => exact .nil
  | char c _ ih =>
    rcases Nat.lt_or_ge c.toNat 0x80 with below | above
    · rw [encode_of_ascii below, List.singleton_append]
      exact .ascii below ih
    · exact .beyond String.utf8EncodeChar_ne_nil (high_of_mem_encode above) above ih
  | malformed nonempty high _ ih => exact .beyond nonempty high (by decide) ih

/-- **Decoding keeps ASCII**, whatever the octets are. -/
theorem alike_decode (bs : Octets) : Alike bs (decode bs) := (reads_pieces bs).alike

variable {bs : Octets} {t : Text}

/-! ## ASCII characters and line feeds -/

theorem ofNat_lt_of_ascii {c : Char} (below : c.toNat < 0x80) : UInt8.ofNat c.toNat < 0x80 := by
  rw [UInt8.lt_iff_toNat_lt, UInt8.toNat_ofNat_of_lt' (Nat.lt_trans below (by decide))]
  exact below

theorem ofNat_inj_ascii {c d : Char} (hc : c.toNat < 0x80) (hd : d.toNat < 0x80) :
    UInt8.ofNat c.toNat = UInt8.ofNat d.toNat ↔ c = d := by
  constructor
  · intro h
    have same := congrArg UInt8.toNat h
    rw [UInt8.toNat_ofNat_of_lt' (Nat.lt_trans hc (by decide)),
      UInt8.toNat_ofNat_of_lt' (Nat.lt_trans hd (by decide))] at same
    exact Char.toNat_inj.1 same
  · rintro rfl
    rfl

/-- The ASCII characters of the text are the ASCII octets. -/
theorem Alike.ascii_eq (h : Alike bs t) :
    Text.octets (t.filter (·.toNat < 0x80)) = bs.filter (· < 0x80) := by
  induction h with
  | nil => rfl
  | ascii below _ ih =>
    rw [List.filter_cons_of_pos (by simpa using below),
      List.filter_cons_of_pos (by simpa using ofNat_lt_of_ascii below), Text.octets_cons,
      encode_of_ascii below, ih, List.singleton_append]
  | @beyond c run _ _ _ high above _ ih =>
    have none : run.filter (· < 0x80) = [] :=
      List.filter_eq_nil_iff.2 fun b mem => by simpa using high b mem
    rw [List.filter_append, none, List.nil_append, List.filter_cons_of_neg (by simpa using above),
      ih]

theorem ofNat_eq_feed_iff {c : Char} (below : c.toNat < 0x80) :
    UInt8.ofNat c.toNat = 10 ↔ c = '\n' :=
  ofNat_inj_ascii below (d := '\n') (by decide)

/-- An octet beyond ASCII is none of an ASCII character. -/
theorem ne_of_high {b : UInt8} {c : Char} (high : 0x80 ≤ b) (below : c.toNat < 0x80) :
    UInt8.ofNat c.toNat ≠ b := by
  rintro rfl
  exact UInt8.not_le.2 (ofNat_lt_of_ascii below) high

theorem ne_of_above {c d : Char} (below : c.toNat < 0x80) (above : 0x80 ≤ d.toNat) : c ≠ d := by
  rintro rfl
  exact Nat.not_le.2 below above

/-- The text has as many line feeds as the octets. -/
theorem Alike.feeds_eq (h : Alike bs t) : t.feeds = bs.count 10 := by
  unfold Text.feeds
  induction h with
  | nil => rfl
  | ascii below _ ih => simp only [List.count_cons, ih, beq_iff_eq, ofNat_eq_feed_iff below]
  | @beyond c run _ _ _ high above _ ih =>
    have no_feed : 10 ∉ run := fun mem => ne_of_high (c := '\n') (high 10 mem) (by decide) rfl
    rw [List.count_append, List.count_eq_zero_of_not_mem no_feed,
      List.count_cons_of_ne (ne_of_above (by decide) above).symm, ih, Nat.zero_add]

/-! ## Markers -/

/-- ASCII in front of the text is the same ASCII in front of the octets. -/
theorem Alike.prefix_iff {m : Text} (ascii : ∀ c ∈ m, c.toNat < 0x80) (h : Alike bs t) :
    m.octets <+: bs ↔ m <+: t := by
  induction m generalizing bs t with
  | nil => simp
  | cons d m ih =>
    have below := ascii d List.mem_cons_self
    rw [Text.octets_cons, encode_of_ascii below, List.singleton_append]
    cases h with
    | nil => simp
    | ascii below' rest =>
      rw [List.cons_prefix_cons, List.cons_prefix_cons, ofNat_inj_ascii below below',
        ih (fun c mem => ascii c (List.mem_cons_of_mem d mem)) rest]
    | @beyond c run _ _ nonempty high above rest =>
      cases run with
      | nil => exact absurd rfl nonempty
      | cons b run =>
        rw [List.cons_append, List.cons_prefix_cons, List.cons_prefix_cons]
        have no_octet := ne_of_high (high b List.mem_cons_self) below
        have no_char := ne_of_above below above
        simp only [no_octet, no_char, false_and]

theorem Alike.leading?_eq (h : Alike bs t) : Marker.leadingOctets? bs = Marker.leading? t := by
  have same (m : Marker) : m.text.octets.isPrefixOf bs = m.text.isPrefixOf t := by
    rw [Bool.eq_iff_iff, List.isPrefixOf_iff_prefix, List.isPrefixOf_iff_prefix]
    exact h.prefix_iff fun _ mem => Marker.ascii_of_mem_text mem
  unfold Marker.leadingOctets? Marker.leading?
  rw [List.find?_cons, List.find?_cons, same, same]
  cases Marker.start.text.isPrefixOf t <;> cases Marker.stop.text.isPrefixOf t <;> rfl

theorem leadingOctets?_of_high {b : UInt8} (high : 0x80 ≤ b) (bs : Octets) :
    Marker.leadingOctets? (b :: bs) = none := by
  have first (m : Marker) : ∃ rest, m.text.octets = UInt8.ofNat '<'.toNat :: rest := by
    cases m <;> exact ⟨_, rfl⟩
  refine List.find?_eq_none.2 fun m _ starts => ?_
  obtain ⟨rest, form⟩ := first m
  rw [List.isPrefixOf_iff_prefix, form, List.cons_prefix_cons] at starts
  exact ne_of_high high (by decide) starts.1

/-- Octets beyond ASCII hold neither a marker nor a line feed. -/
theorem inOctets_append_of_high {run : Octets} (high : ∀ b ∈ run, 0x80 ≤ b) (feeds : Nat)
    (bs : Octets) : Marker.inOctets feeds (run ++ bs) = Marker.inOctets feeds bs := by
  induction run with
  | nil => rfl
  | cons b run ih =>
    have above := high b List.mem_cons_self
    have no_feed : b ≠ 10 := (ne_of_high (c := '\n') above (by decide)).symm
    rw [List.cons_append, Marker.inOctets, leadingOctets?_of_high above, if_neg no_feed]
    exact ih fun b mem => high b (List.mem_cons_of_mem _ mem)

theorem Alike.behind_eq (h : Alike bs t) (before : Text) :
    Marker.behind before t = Marker.inOctets before.feeds bs := by
  induction h generalizing before with
  | nil => rfl
  | ascii below rest ih =>
    have lead := (Alike.ascii below rest).leading?_eq
    rw [Marker.behind_cons, Marker.inOctets, lead, ih, Text.feeds_concat]
    simp only [ofNat_eq_feed_iff below]
  | @beyond c run bs t nonempty high above rest ih =>
    have no_feed : (before ++ [c]).feeds = before.feeds := by
      rw [Text.feeds_concat, if_neg (ne_of_above (by decide) above).symm]
    have no_marker : Marker.leading? (c :: t) = none := by
      rw [← (Alike.beyond nonempty high above rest).leading?_eq]
      obtain ⟨b, run, rfl⟩ := List.exists_cons_of_ne_nil nonempty
      exact leadingOctets?_of_high (high b List.mem_cons_self) (run ++ bs)
    rw [Marker.behind_cons, no_marker, inOctets_append_of_high high, ← no_feed]
    exact ih (before ++ [c])

/-- **Markers** of the text are those of the octets, each behind as many line feeds. -/
theorem Alike.markers_eq (h : Alike bs t) :
    (Marker.occurrences t).map (fun o => (o.marker, t.feedsBefore o.offset)) =
      Marker.inOctets 0 bs :=
  h.behind_eq []

end Utf8
end QuizPages
