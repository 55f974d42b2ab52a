import BillingQuery.Proofs.StatementLanguage

/-!
# Padded statements

White space before a raw statement, and semicolons and white space after it, are padding.

**Main result (`StatementGuard.acceptsPaddings_of_validate`).** A statement that the guard gives is
accepted as it is, and with any padding up to the greatest length; and texts that are accepted as
one statement differ in their padding only.

The guard takes the padding off after it has looked at the text. So it matters that no character of
the padding is part of a word or an identifier: neither SELECT nor a run of identifier characters
reaches into it (`exists_of_append_eq`), and the end of the text delimits both as padding does.
-/

namespace BillingQuery

open Text (Spells)

/-! ## Characters of the padding -/

theorem Text.forall_of_isBlank {P : Char → Prop}
    (h : ∀ range ∈ blankRanges, ∀ k < range.2 + 1 - range.1, P (Char.ofNat (range.1 + k)))
    {c : Char} (hc : isBlank c = true) : P c := by
  obtain ⟨⟨low, high⟩, hrange, hbounds⟩ := List.any_eq_true.1 hc
  rw [Bool.and_eq_true, decide_eq_true_eq, decide_eq_true_eq] at hbounds
  have hchar := h (low, high) hrange (c.toNat - low) (by dsimp only at hbounds ⊢; omega)
  rwa [Nat.add_sub_cancel' hbounds.1, Char.ofNat_toNat] at hchar

/-- What may stand after a statement is no part of a word or an identifier. -/
theorem not_isWord_of_isTrailer {c : Char} (h : isTrailer c = true) :
    Text.isWord c = false ∧ isIdentifierChar c = false := by
  rw [isTrailer, Bool.or_eq_true, decide_eq_true_eq] at h
  rcases h with rfl | hblank
  · decide
  · exact Text.forall_of_isBlank (P := fun c => Text.isWord c = false ∧ isIdentifierChar c = false)
      (by decide +kernel) hblank

theorem isTrailer_of_isBlank {c : Char} (h : Text.isBlank c = true) : isTrailer c = true := by
  rw [isTrailer, h, Bool.or_true]

/-! ## Checks beside padding -/

section
variable {p : Char → Bool} {as bs cs tail : List Char}

/-- A part whose last character is none of the tail ends before the tail. -/
theorem exists_of_append_eq (h : as ++ bs = cs ++ tail) (hlast : as.getLast?.any p = true)
    (htail : ∀ c ∈ tail, p c = false) : ∃ rest, as ++ rest = cs ∧ rest ++ tail = bs := by
  rcases List.append_eq_append_iff.1 h with ⟨rest, rfl, rfl⟩ | ⟨excess, rfl, rfl⟩
  · exact ⟨rest, rfl, rfl⟩
  · rcases List.eq_nil_or_concat excess with rfl | ⟨excess, c, rfl⟩
    · exact ⟨[], by simp, rfl⟩
    · have hc : p c = true := by simpa using hlast
      rw [htail c (by simp)] at hc
      cases hc

theorem forall_head?_append (htail : ∀ c ∈ tail, p c = false) :
    (∀ c ∈ (bs ++ tail).head?, p c = false) ↔ ∀ c ∈ bs.head?, p c = false := by
  cases bs with
  | nil => exact iff_of_true (fun c hc => htail c (List.mem_of_mem_head? hc)) nofun
  | cons b bs => rfl

end

section
variable {t tail before run : List Char}

theorem startsWithSelect_append_iff (htail : ∀ c ∈ tail, Text.isWord c = false) :
    StartsWithSelect (t ++ tail) ↔ StartsWithSelect t := by
  constructor
  · rintro ⟨word, _, hsplit, hword, hrest⟩
    obtain ⟨rest, rfl, rfl⟩ := exists_of_append_eq hsplit (isWord_last_of_spells hword) htail
    exact ⟨word, rest, rfl, hword, (forall_head?_append htail).1 hrest⟩
  · rintro ⟨word, rest, rfl, hword, hrest⟩
    exact ⟨word, rest ++ tail, (List.append_assoc ..).symm, hword,
      (forall_head?_append htail).2 hrest⟩

theorem IsRun.last {after : List Char} (h : IsRun before run after) :
    (before ++ run).getLast?.any isIdentifierChar = true := by
  rcases List.eq_nil_or_concat run with rfl | ⟨run, c, rfl⟩
  · exact absurd rfl h.nonempty
  · simpa using h.chars c (by simp)

theorem hasForbidden_append_iff (htail : ∀ c ∈ tail, isIdentifierChar c = false) :
    HasForbidden (t ++ tail) before run ↔ HasForbidden t before run := by
  constructor
  · rintro ⟨_, hsplit, hrun, hforbidden⟩
    obtain ⟨after, rfl, rfl⟩ := exists_of_append_eq hsplit hrun.last htail
    have hafter := (forall_head?_append htail).1 hrun.after
    exact ⟨after, rfl, ⟨hrun.nonempty, hrun.chars, hrun.before, hafter⟩, hforbidden⟩
  · rintro ⟨after, rfl, hrun, hforbidden⟩
    have hafter := (forall_head?_append htail).2 hrun.after
    exact ⟨after ++ tail, (List.append_assoc ..).symm,
      ⟨hrun.nonempty, hrun.chars, hrun.before, hafter⟩, hforbidden⟩

end

/-! ## Statements -/

/-- The text is one that the guard gives, if it is not too long: it passes the checks, and nothing
can be taken off its end. -/
structure IsStatement (t : List Char) : Prop where
  select : StartsWithSelect t
  clean : ∀ before run, ¬ HasForbidden t before run
  last : ∀ c ∈ t.getLast?, isTrailer c = false
  single : ';' ∉ t

section
variable {t lead trail : List Char}

/-- The S at the start is no white space in any case. -/
theorem StartsWithSelect.head (h : StartsWithSelect t) :
    ∃ c rest, c :: rest = t ∧ Text.isBlank c = false := by
  obtain ⟨word, rest, rfl, hword, -⟩ := h
  cases word with
  | nil => cases hword
  | cons c word =>
    have hvariant : c ∈ Text.caseVariants 's' := Text.mem_caseVariants.2 (List.cons.inj hword).1
    have hall : (Text.caseVariants 's').all (!Text.isBlank ·) = true := by decide
    exact ⟨c, word ++ rest, rfl, by simpa using List.all_eq_true.1 hall c hvariant⟩

/-- Trimming a padded statement takes off its lead, and of its trail what is white space to the
end. -/
theorem IsStatement.trimChars_padded (h : IsStatement t)
    (hlead : ∀ c ∈ lead, Text.isBlank c = true) :
    Text.trimChars (lead ++ (t ++ trail)) = t ++ Text.dropEndWhile Text.isBlank trail := by
  obtain ⟨tail, htrail, htail, hlast⟩ : Text.IsStripped Text.isBlank trail _ :=
    Text.dropEndWhile_eq_iff.1 rfl
  refine Text.trimWhile_eq_iff.2 ⟨lead, t ++ trail, rfl, hlead, ?_, tail, ?_, htail, ?_⟩
  · obtain ⟨c, rest, rfl, hc⟩ := h.select.head
    rintro _ ⟨⟩
    exact hc
  · rw [List.append_assoc, htrail]
  · intro c hc
    rw [List.getLast?_append, Option.mem_def, Option.or_eq_some_iff] at hc
    rcases hc with hc | ⟨-, hc⟩
    · exact hlast c hc
    · exact Bool.eq_false_iff.2 fun hblank => by
        cases (isTrailer_of_isBlank hblank).symm.trans (h.last c hc)

end

namespace StatementGuard

variable {g : StatementGuard}

theorem judges_ok_iff {st t : List Char} : g.Judges st (.ok t) ↔
    ∃ tail, t ++ tail = st ∧ (∀ c ∈ tail, isTrailer c = true) ∧ IsStatement t ∧
      st.length ≤ g.maxLength := by
  constructor
  · rintro ⟨⟩
    next select clean short stripped single =>
    obtain ⟨tail, rfl, htail, hlast⟩ := stripped
    have hchars := fun c hc => not_isWord_of_isTrailer (htail c hc)
    refine ⟨tail, rfl, htail, ⟨?_, fun before run h => ?_, hlast, single⟩, short⟩
    · exact (startsWithSelect_append_iff fun c hc => (hchars c hc).1).1 select
    · exact clean before run ((hasForbidden_append_iff fun c hc => (hchars c hc).2).2 h)
  · rintro ⟨tail, rfl, htail, h, short⟩
    have hchars := fun c hc => not_isWord_of_isTrailer (htail c hc)
    refine .accepted ?_ (fun before run hrun => ?_) short ⟨tail, rfl, htail, h.last⟩ h.single
    · exact (startsWithSelect_append_iff fun c hc => (hchars c hc).1).2 h.select
    · exact h.clean before run ((hasForbidden_append_iff fun c hc => (hchars c hc).2).1 hrun)

theorem validate_eq_ok_iff {sql t : String} : g.validate sql = .ok t ↔
    ∃ tail, t.toList ++ tail = Text.trimChars sql.toList ∧ (∀ c ∈ tail, isTrailer c = true) ∧
      IsStatement t.toList ∧ (Text.trim sql).length ≤ g.maxLength := by
  rw [Text.trim, String.length_ofList, ← judges_ok_iff, ← checkTrimmed_eq_iff, validate, check]
  cases g.checkTrimmed (Text.trimChars sql.toList) with
  | error fault =>
    constructor
    · intro h
      cases h
    · intro h
      cases h
  | ok statement =>
    show Except.ok (String.ofList statement) = Except.ok t ↔ _
    rw [Except.ok.injEq, Except.ok.injEq, ← String.toList_inj, String.toList_ofList]

/-- White space to stand before a statement, and what may stand after one. -/
structure IsPadding (lead trail : String) : Prop where
  lead : ∀ c ∈ lead.toList, Text.isBlank c = true
  trail : ∀ c ∈ trail.toList, isTrailer c = true

/-- What the guard makes of texts with this statement. -/
structure AcceptsPaddings (g : StatementGuard) (t : String) : Prop where
  /-- The statement is accepted as it is. -/
  itself : g.validate t = .ok t
  /-- Padded, it is accepted iff it is not too long without the white space at the ends. -/
  padded : ∀ lead trail, IsPadding lead trail →
    (g.validate (lead ++ t ++ trail) = .ok t ↔
      (Text.trim (lead ++ t ++ trail)).length ≤ g.maxLength)
  /-- Texts that are accepted as the statement differ in their padding only. -/
  alike : ∀ sql sql', g.validate sql = .ok t → g.validate sql' = .ok t →
    ∃ lead trail lead' trail', IsPadding lead trail ∧ IsPadding lead' trail' ∧
      sql = lead ++ t ++ trail ∧ sql' = lead' ++ t ++ trail'

theorem exists_padding {sql t : String} (h : g.validate sql = .ok t) :
    ∃ lead trail, IsPadding lead trail ∧ sql = lead ++ t ++ trail := by
  obtain ⟨tail, htrim, htail, -⟩ := validate_eq_ok_iff.1 h
  obtain ⟨lead, rest, hsql, hlead, -, blanks, hrest, hblanks, -⟩ :=
    Text.trimWhile_eq_iff.1 htrim.symm
  refine ⟨String.ofList lead, String.ofList (tail ++ blanks), ⟨?_, ?_⟩, ?_⟩
  · rwa [String.toList_ofList]
  · rw [String.toList_ofList]
    intro c hc
    rcases List.mem_append.1 hc with hc | hc
    · exact htail c hc
    · exact isTrailer_of_isBlank (hblanks c hc)
  · apply String.toList_injective
    simp only [String.toList_append, String.toList_ofList, ← hsql, ← hrest, List.append_assoc]

theorem validate_padded_iff {lead t trail : String} (h : IsStatement t.toList)
    (hpadding : IsPadding lead trail) : g.validate (lead ++ t ++ trail) = .ok t ↔
      (Text.trim (lead ++ t ++ trail)).length ≤ g.maxLength := by
  have htrim : t.toList ++ Text.dropEndWhile Text.isBlank trail.toList =
      Text.trimChars (lead ++ t ++ trail).toList := by
    rw [String.toList_append, String.toList_append, List.append_assoc,
      h.trimChars_padded hpadding.lead]
  obtain ⟨blanks, hblanks, -⟩ : Text.IsStripped Text.isBlank trail.toList _ :=
    Text.dropEndWhile_eq_iff.1 rfl
  have htail : ∀ c ∈ Text.dropEndWhile Text.isBlank trail.toList, isTrailer c = true :=
    fun c hc => hpadding.trail c (hblanks ▸ List.mem_append_left blanks hc)
  rw [validate_eq_ok_iff]
  exact ⟨fun ⟨_, _, _, _, hshort⟩ => hshort, fun hshort => ⟨_, htrim, htail, h, hshort⟩⟩

/-- **Padding plays no part** in what the guard gives. -/
theorem acceptsPaddings_of_validate {sql t : String} (h : g.validate sql = .ok t) :
    g.AcceptsPaddings t := by
  obtain ⟨tail, htrim, -, hstatement, hshort⟩ := validate_eq_ok_iff.1 h
  refine ⟨?_, fun lead trail => validate_padded_iff hstatement, fun sql₁ sql₂ h₁ h₂ => ?_⟩
  · have hnone : IsPadding "" "" := ⟨List.forall_mem_nil _, List.forall_mem_nil _⟩
    have hself : Text.trimChars t.toList = t.toList := by
      simpa [Text.dropEndWhile] using
        @IsStatement.trimChars_padded t.toList [] [] hstatement (List.forall_mem_nil _)
    have hlength : (Text.trim t).length ≤ g.maxLength := by
      rw [Text.trim, String.length_ofList, ← htrim, List.length_append] at hshort
      rw [Text.trim, hself, String.length_ofList]
      omega
    simpa [hlength] using validate_padded_iff (g := g) hstatement hnone
  · obtain ⟨lead₁, trail₁, hpadding₁, hsql₁⟩ := exists_padding h₁
    obtain ⟨lead₂, trail₂, hpadding₂, hsql₂⟩ := exists_padding h₂
    exact ⟨lead₁, trail₁, lead₂, trail₂, hpadding₁, hpadding₂, hsql₁, hsql₂⟩

/-- A bare SELECT among padding, which is the whole length. -/
theorem acceptsPaddings_select :
    (⟨10⟩ : StatementGuard).validate "\u3000Select ; ;\u00a0" = .ok "Select" ∧
      (⟨10⟩ : StatementGuard).AcceptsPaddings "Select" :=
  have haccepted : (⟨10⟩ : StatementGuard).validate "\u3000Select ; ;\u00a0" = .ok "Select" := rfl
  ⟨haccepted, acceptsPaddings_of_validate haccepted⟩

end StatementGuard
end BillingQuery
