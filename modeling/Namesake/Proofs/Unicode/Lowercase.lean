import Namesake.Unicode.Case

/-!
# How far lower case looks

A sigma is final in its word, so the lower-case form of a text is not that of its characters alone.
But a character that is neither a letter nor looked past ends a word, whatever stands around it.
There a text can be cut in two: its lower-case form is that of both parts. How long the lower-case
form of a text is depends on its characters alone, so no text has the lower-case form of a part of
it that it begins with. And lower case does nothing to what is in lower case: the letters to which
the table moves others are not moved by it.

## Main definitions

* `CaseRun.settled` — the letters to which a run moves stay where they are

## Main results

* `lowercase_append_stop` — lower case does not look beyond a stop
* `eq_of_prefix_of_lowercase` — a beginning with the same lower-case form is the whole text
* `lowercase_lowercase` — lower case is in lower case
-/

namespace Namesake.Unicode

variable {c : Char} {t u : Text}

/-- No word goes on behind a character that is neither a letter nor looked past. -/
theorem startsCased_append_stop (hskip : isSkipped c = false) (hcase : isCased c = false) :
    startsCased (t ++ c :: u) = startsCased t := by
  induction t with
  | nil => simp [startsCased, hskip, hcase]
  | cons d t ih => rw [List.cons_append, startsCased, startsCased, ih]

/-- Nor does it matter there what came before. -/
theorem lowerFrom_stop (hskip : isSkipped c = false) (hsigma : c ≠ 'Σ') (after : AfterWord) :
    lowerFrom after (c :: u) = lowerFrom false (c :: u) := by
  simp only [lowerFrom, if_neg hsigma, AfterWord.next, hskip, Bool.false_eq_true, ↓reduceIte]

/-- Lower case does not look beyond such a character, from either side. -/
theorem lowercase_append_stop (hskip : isSkipped c = false) (hcase : isCased c = false)
    (hsigma : c ≠ 'Σ') : lowercase (t ++ c :: u) = lowercase t ++ lowercase (c :: u) := by
  have hfrom : ∀ after,
      lowerFrom after (t ++ c :: u) = lowerFrom after t ++ lowercase (c :: u) := by
    induction t with
    | nil =>
      intro after
      exact lowerFrom_stop hskip hsigma after
    | cons d t ih =>
      intro after
      rw [List.cons_append, lowerFrom, lowerFrom, startsCased_append_stop hskip hcase, ih,
        List.append_assoc]
  exact hfrom false

/-- How long the lower-case form is depends on the characters alone, not on their places: it is
longer by one for every `İ`. -/
theorem length_lowerFrom (after : AfterWord) (t : Text) :
    (lowerFrom after t).length = t.length + t.count 'İ' := by
  induction t generalizing after with
  | nil => rfl
  | cons c t ih =>
    rw [lowerFrom, List.length_append, ih, List.length_cons]
    by_cases hsigma : c = 'Σ'
    · subst hsigma
      rw [if_pos rfl, List.count_cons_of_ne (by decide), List.length_singleton]
      omega
    · rw [if_neg hsigma, lowerChar]
      split
      · rename_i hdot
        subst hdot
        rw [List.count_cons_self, List.length_cons, List.length_singleton]
        omega
      · rename_i hdot
        rw [List.count_cons_of_ne hdot, List.length_singleton]
        omega

/-- A beginning with the same lower-case form is the whole text. -/
theorem eq_of_prefix_of_lowercase (h : t <+: u) (hlower : lowercase t = lowercase u) : t = u := by
  have hlength := congrArg List.length hlower
  rw [lowercase, lowercase, length_lowerFrom, length_lowerFrom] at hlength
  have hcount := h.sublist.count_le 'İ'
  exact h.eq_of_length_le (by omega)

/-! ### What is in lower case -/

/-- A text of characters that have no other form in lower case is in lower case. -/
theorem lowercase_unchanged (h : ∀ c ∈ t, c ≠ 'Σ' ∧ lowerChar c = [c]) :
    lowercase t = t := by
  have hfrom : ∀ after, lowerFrom after t = t := by
    induction t with
    | nil => exact fun _ => rfl
    | cons c t ih =>
      intro after
      obtain ⟨⟨hsigma, hc⟩, hrest⟩ := List.forall_mem_cons.1 h
      rw [lowerFrom, if_neg hsigma, hc, ih hrest, List.singleton_append]
  exact hfrom false

/-- Does no run of the list move any of the letters to which the run `r` moves? The list is gone
through as far as those letters go. -/
def CaseRun.settled (r : CaseRun) : List CaseRun → Bool
  | [] => true
  | q :: rest =>
    bif (r.target + (r.last - r.first)).blt q.first then true
    else (q.last.blt r.target || (q.first.ble r.target && !((r.target - q.first) % q.step).beq 0 &&
      ((r.step % q.step).beq 0 || r.last.beq r.first))) && r.settled rest

/-- The letters to which a run moves are not moved again. -/
theorem lowerRuns_settled : (lowerRuns.all fun r => r.settled lowerRuns) = true := by
  decide +kernel

/-- They are characters from the first small letter of ASCII on, and `İ` is none of them. -/
theorem lowerRuns_targets : (lowerRuns.all fun r => Nat.ble 0x61 r.target &&
    ((r.target + (r.last - r.first)).blt 0x130 || Nat.blt 0x130 r.target) &&
    ((r.target + (r.last - r.first)).blt 0xD800 || Nat.blt 0xDFFF r.target &&
      (r.target + (r.last - r.first)).blt 0x110000)) = true := by
  decide +kernel

/-- A code point stays, or a run moves it. -/
theorem shifted_cases (runs : List CaseRun) (n : Nat) : shifted runs n = n ∨
    ∃ r ∈ runs, ∃ k ≤ r.last - r.first, k % r.step = 0 ∧ shifted runs n = r.target + k := by
  induction runs with
  | nil => exact .inl rfl
  | cons r runs ih =>
    rw [shifted]
    split
    · exact .inl rfl
    · split
      · split
        · rename_i hstep
          exact .inr ⟨r, List.mem_cons_self, n - r.first, by omega, hstep, rfl⟩
        · exact .inl rfl
      · exact ih.imp_right fun ⟨q, hq, h⟩ => ⟨q, List.mem_cons_of_mem r hq, h⟩

theorem CaseRun.shifted_of_settled {r : CaseRun} {runs : List CaseRun} {k : Nat}
    (h : r.settled runs = true) (hk : k ≤ r.last - r.first) (hstep : k % r.step = 0) :
    shifted runs (r.target + k) = r.target + k := by
  induction runs with
  | nil => rfl
  | cons q runs ih =>
    rw [settled, cond_eq_ite] at h
    rw [shifted]
    split
    · rfl
    · rename_i hfirst
      split at h
      · rename_i hbelow
        rw [Nat.blt_eq] at hbelow
        omega
      · rw [Bool.and_eq_true] at h
        split
        · rename_i hlast
          -- the letters stand between those that the other run moves
          have hstand : q.first ≤ r.target ∧ (r.target - q.first) % q.step ≠ 0 ∧
              (r.step % q.step = 0 ∨ r.last = r.first) := by
            have hbeq : ∀ x : Nat, (!x.beq 0) = true ↔ x ≠ 0 := by
              intro x
              cases x <;> simp [Nat.beq]
            simp only [Bool.or_eq_true, Bool.and_eq_true, Nat.blt_eq, Nat.ble_eq, Nat.beq_eq, hbeq,
              and_assoc] at h
            exact h.1.resolve_left (by omega)
          have hdvd : q.step ∣ k := by
            rcases hstand.2.2 with hsteps | hsingle
            · exact Nat.dvd_trans (Nat.dvd_of_mod_eq_zero hsteps) (Nat.dvd_of_mod_eq_zero hstep)
            · rw [hsingle, Nat.sub_self, Nat.le_zero] at hk
              exact hk ▸ Nat.dvd_zero q.step
          rw [if_neg]
          intro hmoved
          have hsplit : r.target + k - q.first = (r.target - q.first) + k := by omega
          rw [hsplit] at hmoved
          exact hstand.2.1 (Nat.mod_eq_zero_of_dvd
            ((Nat.dvd_add_left hdvd).1 (Nat.dvd_of_mod_eq_zero hmoved)))
        · exact ih h.2

/-- A letter to which a run moves is a small letter from the first one of ASCII on, and stays. -/
theorem lowerRuns_target {r : CaseRun} {k : Nat} (hr : r ∈ lowerRuns) (hk : k ≤ r.last - r.first)
    (hstep : k % r.step = 0) : (r.target + k).isValidChar ∧ 0x61 ≤ r.target + k ∧
      r.target + k ≠ 0x130 ∧ shifted lowerRuns (r.target + k) = r.target + k := by
  have htargets := List.all_eq_true.1 lowerRuns_targets r hr
  have hsettled := List.all_eq_true.1 lowerRuns_settled r hr
  simp only [Bool.and_eq_true, Bool.or_eq_true, Nat.ble_eq, Nat.blt_eq] at htargets
  exact ⟨by unfold Nat.isValidChar; omega, by omega, by omega, r.shifted_of_settled hsettled hk
    hstep⟩

/-- What stands for `İ` in lower case, and the two small sigmas, are small letters and a mark that
have no other form in lower case. -/
theorem lowerChar_special (h : c ∈ ['i', '\u0307', 'ς', 'σ']) :
    0x61 ≤ c.toNat ∧ c ≠ 'Σ' ∧ lowerChar c = [c] := by
  simp only [List.mem_cons, List.not_mem_nil, or_false] at h
  rcases h with rfl | rfl | rfl | rfl
  · exact ⟨by decide, by decide, by decide +kernel⟩
  · exact ⟨by decide, by decide, by decide +kernel⟩
  · exact ⟨by decide, by decide, by decide +kernel⟩
  · exact ⟨by decide, by decide, by decide +kernel⟩

/-- What a character becomes in lower case is that character or a small letter, and has no other
form in lower case. -/
theorem of_mem_lowerChar {d : Char} (hd : d ≠ 'Σ') (h : c ∈ lowerChar d) :
    (c = d ∨ 0x61 ≤ c.toNat) ∧ c ≠ 'Σ' ∧ lowerChar c = [c] := by
  unfold lowerChar at h
  split at h
  · have hspecial : c ∈ ['i', '\u0307', 'ς', 'σ'] := List.mem_append_left ['ς', 'σ'] h
    exact (lowerChar_special hspecial).imp_left .inr
  · rename_i hdot
    obtain rfl := List.mem_singleton.1 h
    rcases shifted_cases lowerRuns d.toNat with hstay | ⟨r, hr, k, hk, hstep, hmove⟩
    · rw [hstay, Char.ofNat_toNat]
      exact ⟨.inl rfl, hd, by rw [lowerChar, if_neg hdot, hstay, Char.ofNat_toNat]⟩
    · obtain ⟨hvalid, hsmall, hne, hstay⟩ := lowerRuns_target hr hk hstep
      rw [hmove]
      generalize r.target + k = m at hvalid hsmall hne hstay
      have hcode : (Char.ofNat m).toNat = m := toNat_ofNat hvalid
      refine ⟨.inr (hcode.symm ▸ hsmall), fun hsigma => ?_, ?_⟩
      · -- sigma itself is moved by a run
        have hmoved : shifted lowerRuns 0x3A3 = 0x3C3 := by decide +kernel
        rw [← hcode, hsigma] at hstay
        exact absurd (hmoved.symm.trans hstay) (by decide)
      · rw [lowerChar, if_neg, hcode, hstay]
        intro hdot
        rw [← hcode, hdot] at hne
        exact hne rfl

/-- The same for texts. -/
theorem of_mem_lowercase (h : c ∈ lowercase t) :
    (c ∈ t ∨ 0x61 ≤ c.toNat) ∧ c ≠ 'Σ' ∧ lowerChar c = [c] := by
  unfold lowercase at h
  generalize false = after at h
  induction t generalizing after with
  | nil => cases h
  | cons d t ih =>
    rw [lowerFrom, List.mem_append] at h
    rcases h with h | h
    · split at h
      · have hspecial : c ∈ ['i', '\u0307', 'ς', 'σ'] := by
          split at h
          · simp [List.mem_singleton.1 h]
          · simp [List.mem_singleton.1 h]
        exact (lowerChar_special hspecial).imp_left .inr
      · rename_i hsigma
        obtain ⟨hc, hlower⟩ := of_mem_lowerChar hsigma h
        refine ⟨hc.imp_left fun heq => ?_, hlower⟩
        rw [heq]
        exact List.mem_cons_self
    · exact (ih _ h).imp_left fun h' => h'.imp_left (List.mem_cons_of_mem d)

/-- Lower case is in lower case. -/
theorem lowercase_lowercase (t : Text) : lowercase (lowercase t) = lowercase t :=
  lowercase_unchanged fun _ hc => (of_mem_lowercase hc).2

end Namesake.Unicode
