import PairedContacts.Proofs.Text.Lines
import PairedContacts.Text.Blank
import PairedContacts.Text.UpperCase

/-!
# Capitals

The characters that upper-casing produces are left alone by it, and none of them ends a line.  So
upper-casing twice is upper-casing once, and a text breaks exactly where its upper case does.

The tables are compared as sets of bits: no capital is among the code points that upper-casing
changes or that end a line.
-/

set_option autoImplicit false

namespace PairedContacts.Text

def CaseRun.codes (run : CaseRun) : List Nat :=
  (List.range' run.first (run.last + 1 - run.first)).filter run.holds

/-- The code points that upper-casing may change, and those that end a line. -/
def unsettled : List Nat :=
  lineBreaks.map Char.toNat ++ List.range' 0x61 26 ++ expandingCases.map Prod.fst ++
    caseRuns.flatMap CaseRun.codes

/-- The code points that the tables put in the place of others. -/
def capitals : List Nat :=
  expandingCases.flatMap Prod.snd ++
    caseRuns.flatMap fun run => run.codes.map fun (code : Nat) => ((code : Int) + run.shift).toNat

/-- A list of code points as the set of its bits. -/
def bits (codes : List Nat) : Nat :=
  codes.foldr (fun code set => 1 <<< code ||| set) 0

theorem testBit_bits {codes : List Nat} {code : Nat} (member : code ∈ codes) :
    (bits codes).testBit code = true := by
  induction codes with
  | nil => simp at member
  | cons first rest ih =>
      rw [bits, List.foldr_cons, Nat.testBit_or, ← bits, Bool.or_eq_true]
      rcases List.mem_cons.mp member with rfl | member
      · exact .inl (by simp [Nat.testBit_shiftLeft])
      · exact .inr (ih member)

theorem not_mem_of_bits_apart {codes others : List Nat} (apart : bits codes &&& bits others = 0)
    {code : Nat} (member : code ∈ others) : code ∉ codes := by
  intro shared
  have both : (bits codes &&& bits others).testBit code = true := by
    rw [Nat.testBit_and, testBit_bits shared, testBit_bits member]
    rfl
  simp [apart] at both

theorem capitals_apart : bits unsettled &&& bits capitals = 0 := by decide +kernel

theorem capitals_valid :
    (capitals.all fun code => code < 0xD800 || 0xDFFF < code && code < 0x110000) = true := by
  decide +kernel

theorem toNat_of_mem_capitals {code : Nat} (member : code ∈ capitals) :
    (Char.ofNat code).toNat = code := by
  have valid := List.all_eq_true.mp capitals_valid code member
  simp only [Bool.or_eq_true, Bool.and_eq_true, decide_eq_true_eq] at valid
  rw [Char.ofNat, dif_pos valid]
  rfl

/-! ## One character -/

theorem toUpper_ascii : ∀ code < 0x80, code ∉ List.range' 0x61 26 ->
    (Char.ofNat code).toUpper = Char.ofNat code := by
  decide +kernel

theorem upperChar_toUpper_ascii : ∀ code < 0x80,
    upperChar (Char.ofNat code).toUpper = [(Char.ofNat code).toUpper] ∧
      (isLineBreak (Char.ofNat code).toUpper = true -> isLineBreak (Char.ofNat code) = true) := by
  decide +kernel

theorem CaseRun.mem_codes {run : CaseRun} {code : Nat} (held : run.holds code = true) :
    code ∈ run.codes := by
  rw [CaseRun.codes, List.mem_filter]
  refine ⟨?_, held⟩
  simp only [CaseRun.holds, Bool.and_eq_true, decide_eq_true_eq] at held
  rw [List.mem_range'_1]
  omega

theorem upperCode_of_settled {code : Nat} (settled : code ∉ unsettled) :
    upperCode code = [code] := by
  simp only [unsettled, List.mem_append, not_or] at settled
  obtain ⟨⟨-, notExpanding⟩, notInRun⟩ := settled
  have noEntry : expandingCases.lookup code = none := by
    rw [List.lookup_eq_none_iff]
    intro entry member
    simp only [bne_iff_ne, ne_eq]
    intro same
    exact notExpanding (List.mem_map.mpr ⟨entry, member, same.symm⟩)
  have noRun : caseRuns.find? (·.holds code) = none := by
    rw [List.find?_eq_none]
    intro run member held
    exact notInRun (List.mem_flatMap.mpr ⟨run, member, CaseRun.mem_codes held⟩)
  simp [upperCode, noEntry, noRun]

theorem mem_capitals_of_mem_upperCode {code capital : Nat} (member : capital ∈ upperCode code) :
    capital ∈ capitals ∨ upperCode code = [code] := by
  rw [upperCode] at member ⊢
  cases expanding : expandingCases.lookup code with
  | some codes =>
      rw [expanding] at member
      obtain ⟨before, after, split, -⟩ := List.lookup_eq_some_iff.mp expanding
      refine .inl (List.mem_append.mpr (.inl ?_))
      exact List.mem_flatMap.mpr ⟨(code, codes), by rw [split]; simp, member⟩
  | none =>
      cases found : caseRuns.find? (·.holds code) with
      | some run =>
          simp only [expanding, found, List.mem_singleton] at member
          subst member
          refine .inl (List.mem_append.mpr (.inr ?_))
          have held : run.holds code = true := by
            simpa using List.find?_some found
          exact List.mem_flatMap.mpr ⟨run, List.mem_of_find?_eq_some found,
            List.mem_map.mpr ⟨code, CaseRun.mem_codes held, rfl⟩⟩
      | none => exact .inr rfl

theorem upperChar_of_capital {code : Nat} (member : code ∈ capitals) :
    upperChar (Char.ofNat code) = [Char.ofNat code] := by
  have settled : code ∉ unsettled := not_mem_of_bits_apart capitals_apart member
  have same := toNat_of_mem_capitals member
  rw [upperChar, same]
  split
  · rename_i ascii
    have notSmall : code ∉ List.range' 0x61 26 := by
      intro small
      simp only [unsettled, List.mem_append, not_or] at settled
      exact settled.1.1.2 small
    rw [toUpper_ascii code ascii notSmall]
  · rw [upperCode_of_settled settled]
    rfl

theorem not_isLineBreak_of_capital {code : Nat} (member : code ∈ capitals) :
    isLineBreak (Char.ofNat code) = false := by
  have settled : code ∉ unsettled := not_mem_of_bits_apart capitals_apart member
  have same := toNat_of_mem_capitals member
  cases breaks : isLineBreak (Char.ofNat code) with
  | false => rfl
  | true =>
      have listed : Char.ofNat code ∈ lineBreaks := by simpa [isLineBreak] using breaks
      have included : code ∈ lineBreaks.map Char.toNat := List.mem_map.mpr ⟨_, listed, same⟩
      simp [unsettled, included] at settled

/-- What upper-casing makes of a character stays, and ends a line only if the character does. -/
theorem settled_of_mem_upperChar {c d : Char} (member : d ∈ upperChar c) :
    upperChar d = [d] ∧ (isLineBreak d = true -> isLineBreak c = true) := by
  rw [upperChar] at member
  split at member
  · rename_i ascii
    obtain rfl := List.mem_singleton.mp member
    have fact := upperChar_toUpper_ascii c.toNat ascii
    rwa [Char.ofNat_toNat] at fact
  · rename_i beyond
    obtain ⟨code, listed, rfl⟩ := List.mem_map.mp member
    rcases mem_capitals_of_mem_upperCode listed with capital | unchanged
    · refine ⟨upperChar_of_capital capital, ?_⟩
      rw [not_isLineBreak_of_capital capital]
      exact fun impossible => Bool.noConfusion impossible
    · rw [unchanged, List.mem_singleton] at listed
      subst listed
      rw [Char.ofNat_toNat, upperChar, if_neg beyond, unchanged]
      exact ⟨by simp, id⟩

theorem upperChar_of_isLineBreak {c : Char} (breaks : isLineBreak c = true) :
    upperChar c = [c] := by
  have listed : (lineBreaks.all fun c => upperChar c == [c]) = true := by decide +kernel
  exact eq_of_beq (of_isLineBreak listed breaks)

/-! ## Whole texts -/

theorem upper_upper (text : List Char) : upper (upper text) = upper text := by
  have stays : ∀ more : List Char, (∀ d ∈ more, upperChar d = [d]) -> upper more = more := by
    intro more settled
    induction more with
    | nil => rfl
    | cons d rest ih =>
        rw [upper_cons, settled d (by simp), ih fun e member => settled e (by simp [member])]
        rfl
  apply stays
  intro d member
  obtain ⟨c, -, member⟩ := List.mem_flatMap.mp member
  exact (settled_of_mem_upperChar member).1

theorem isUnbroken_upper (text : List Char) : isUnbroken (upper text) = isUnbroken text := by
  induction text with
  | nil => rfl
  | cons c rest ih =>
      rw [upper_cons, isUnbroken_append, ih, isUnbroken_cons]
      cases breaks : isLineBreak c with
      | true => simp [upperChar_of_isLineBreak breaks, isUnbroken, breaks]
      | false =>
          have kept : isUnbroken (upperChar c) = true := by
            rw [isUnbroken, List.all_eq_true]
            intro d member
            cases ends : isLineBreak d with
            | false => rfl
            | true =>
                have broke := (settled_of_mem_upperChar member).2 ends
                simp [breaks] at broke
          simp [kept]

/-- A character that the tables do not put in the place of another comes from itself or, within
ASCII, from its small letter. -/
theorem of_mem_upperChar {c d : Char} (absent : d.toNat ∉ capitals) (member : d ∈ upperChar c) :
    c = d ∨ c.toNat < 0x80 ∧ d = c.toUpper := by
  rw [upperChar] at member
  split at member
  · rename_i ascii
    exact .inr ⟨ascii, List.mem_singleton.mp member⟩
  · obtain ⟨code, written, made⟩ := List.mem_map.mp member
    rcases mem_capitals_of_mem_upperCode written with capital | unchanged
    · have same := toNat_of_mem_capitals capital
      rw [made] at same
      exact absurd (same ▸ capital) absent
    · rw [unchanged, List.mem_singleton] at written
      rw [written, Char.ofNat_toNat] at made
      exact .inl made

/-- Upper-casing makes no colon. -/
theorem eq_colon_of_mem_upperChar {c : Char} (member : ':' ∈ upperChar c) : c = ':' := by
  rcases of_mem_upperChar (by decide +kernel) member with same | ⟨ascii, same⟩
  · exact same
  · have listed : ∀ code < 0x80, ':' = (Char.ofNat code).toUpper -> Char.ofNat code = ':' := by
      decide +kernel
    have found := listed c.toNat ascii (by rwa [Char.ofNat_toNat])
    rwa [Char.ofNat_toNat] at found

/-- No blank becomes the letter that metadata lines begin with. -/
theorem not_isBlank_of_mem_upperChar {c : Char} (member : 'X' ∈ upperChar c) :
    isBlank c = false := by
  rcases of_mem_upperChar (by decide +kernel) member with rfl | ⟨ascii, same⟩
  · decide
  · have listed : ∀ code < 0x80, 'X' = (Char.ofNat code).toUpper ->
        isBlank (Char.ofNat code) = false := by
      decide +kernel
    have found := listed c.toNat ascii (by rwa [Char.ofNat_toNat])
    rwa [Char.ofNat_toNat] at found

theorem upperChar_ne_nil (c : Char) : upperChar c ≠ [] := by
  have written : (expandingCases.all fun entry => !entry.2.isEmpty) = true := by decide
  rw [upperChar]
  split
  · exact List.cons_ne_nil _ _
  · rw [upperCode]
    cases expanding : expandingCases.lookup c.toNat with
    | some codes =>
        obtain ⟨before, after, split, -⟩ := List.lookup_eq_some_iff.mp expanding
        have filled := List.all_eq_true.mp written (c.toNat, codes) (by rw [split]; simp)
        simpa using filled
    | none => cases caseRuns.find? (·.holds c.toNat) <;> simp

/-- Upper-casing never shortens a text. -/
theorem length_le_length_upper (text : List Char) : text.length ≤ (upper text).length := by
  induction text with
  | nil => exact Nat.le_refl _
  | cons c rest ih =>
      have first := List.length_pos_iff.mpr (upperChar_ne_nil c)
      rw [upper_cons, List.length_append, List.length_cons]
      omega

theorem noColon_upper {text : List Char} (noColon : ':' ∉ text) : ':' ∉ upper text := by
  intro member
  obtain ⟨c, among, made⟩ := List.mem_flatMap.mp member
  exact noColon (eq_colon_of_mem_upperChar made ▸ among)

end PairedContacts.Text
