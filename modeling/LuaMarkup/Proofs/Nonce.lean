import LuaMarkup.Proofs.Marker
import LuaMarkup.Text.Quoted

/-!
# Drawing a nonce

Nonces of sixteen hexadecimal digits make openings of twenty-five characters, and two openings on
a page never overlap (`le_of_openings`): a second one could begin inside of the first only at
another `L`, and the letters behind differ. So each block of twenty-five characters takes one
nonce at most, and of distinct nonces one is free after as many draws as the page has such blocks,
and one more (`freeNonce?_finds_first`).
-/

namespace LuaMarkup.Marker

variable {nonces : Nat → Text} {page nonce nonce' : Text} {i j k : Nat}

-- ---------------------------------------------------------------------------
-- The search
-- ---------------------------------------------------------------------------

/-- The search ends at the first free nonce from where it starts, if it gets that far. -/
theorem search_of_isFree {fuel drawn : Nat} (hfree : isFree page (nonces k))
    (htaken : ∀ j, drawn ≤ j → j < k → ¬isFree page (nonces j)) (hle : drawn ≤ k)
    (hfuel : k < drawn + fuel) : search nonces page fuel drawn = some (nonces k, k + 1) := by
  induction fuel generalizing drawn with
  | zero => exact absurd hle (Nat.not_le_of_lt hfuel)
  | succ fuel ih =>
    rcases Nat.eq_or_lt_of_le hle with rfl | hlt
    · rw [search, if_pos hfree]
    · rw [search, if_neg (htaken drawn (Nat.le_refl drawn) hlt)]
      refine ih (fun j hj => htaken j (Nat.le_of_succ_le hj)) hlt ?_
      omega

-- ---------------------------------------------------------------------------
-- Openings on a page
-- ---------------------------------------------------------------------------

/-- The digits that nonces are drawn from. -/
def isHexDigit (c : Char) : Bool := c.isDigit || ('a' ≤ c && c ≤ 'f')

/-- Nonces as they are drawn. -/
def IsHex (nonce : Text) : Prop := nonce.length = 16 ∧ nonce.all isHexDigit

instance : DecidablePred IsHex := fun nonce =>
  inferInstanceAs (Decidable (nonce.length = 16 ∧ nonce.all isHexDigit))

theorem opening_eq (nonce : Text) :
    opening nonce = ['L', 'U', 'A', 'L', 'I', 'G', 'H', 'T'] ++ (nonce ++ ['x']) := rfl

theorem opening_injective (h : opening nonce = opening nonce') : nonce = nonce' := by
  rw [opening_eq, opening_eq] at h
  exact List.append_cancel_right (List.append_cancel_left h)

theorem IsHex.length_opening (h : IsHex nonce) : (opening nonce).length = 25 := by
  simp [opening_eq, h.1]

/-- The letter that an opening begins with stands at one other place in it. -/
theorem IsHex.eq_of_getElem?_opening (h : IsHex nonce) (hL : (opening nonce)[i]? = some 'L') :
    i = 0 ∨ i = 3 := by
  rw [opening_eq] at hL
  by_cases hi : i < 8
  · rw [List.getElem?_append_left hi] at hL
    have hletters : ∀ i < 8, ['L', 'U', 'A', 'L', 'I', 'G', 'H', 'T'][i]? = some 'L' →
        i = 0 ∨ i = 3 := by decide
    exact hletters i hi hL
  · rw [List.getElem?_append_right (Nat.le_of_not_lt hi)] at hL
    rcases List.mem_append.mp (List.mem_of_getElem? hL) with hmem | hmem
    · exact absurd (List.all_eq_true.mp h.2 'L' hmem) (by decide)
    · exact absurd hmem (by decide)

theorem exists_prefix_drop {part : Text} (h : part <:+: page) : ∃ i, part <+: page.drop i := by
  obtain ⟨front, back, rfl⟩ := h
  exact ⟨front.length, back, by simp⟩

theorem getElem?_of_prefix_drop {part : Text} {c : Char} (h : part <+: page.drop i)
    (hc : part[j]? = some c) : page[i + j]? = some c := by
  obtain ⟨hj, rfl⟩ := List.getElem?_eq_some_iff.mp hc
  rw [← List.getElem?_drop]
  exact List.prefix_iff_getElem?.mp h j hj

/-- Openings at different places do not overlap. -/
theorem IsHex.le_of_openings (h : IsHex nonce) (hi : opening nonce <+: page.drop i)
    (hj : opening nonce' <+: page.drop j) (hij : i < j) : i + 25 ≤ j := by
  by_contra hlt
  -- the second opening begins `d` characters into the first
  obtain ⟨d, rfl⟩ := Nat.exists_eq_add_of_le (Nat.le_of_lt hij)
  have hd : d < (opening nonce).length := by
    rw [h.length_opening]
    omega
  have hinside : ∀ e, d + e < (opening nonce).length →
      (opening nonce)[d + e]? = page[i + d + e]? := by
    intro e he
    rw [Nat.add_assoc, getElem?_of_prefix_drop hi (List.getElem?_eq_getElem he)]
    exact List.getElem?_eq_getElem he
  have hL : (opening nonce)[d]? = some 'L' := by
    rw [← Nat.add_zero d, hinside 0 hd]
    exact getElem?_of_prefix_drop hj rfl
  obtain rfl | rfl := h.eq_of_getElem?_opening hL
  · exact Nat.lt_irrefl i hij
  · have hU : (opening nonce)[3 + 1]? = some 'U' := by
      rw [hinside 1 (by rw [h.length_opening]; omega)]
      exact getElem?_of_prefix_drop hj rfl
    exact absurd hU (by simp [opening_eq])

/-- What is opened at a place has one nonce. -/
theorem IsHex.eq_of_openings (h : IsHex nonce) (h' : IsHex nonce')
    (hi : opening nonce <+: page.drop i) (hj : opening nonce' <+: page.drop i) :
    nonce = nonce' := by
  have hlength : (opening nonce).length = (opening nonce').length := by
    rw [h.length_opening, h'.length_opening]
  exact opening_injective
    ((List.prefix_of_prefix_length_le hi hj hlength.le).eq_of_length hlength)

-- ---------------------------------------------------------------------------
-- Nonces on a page
-- ---------------------------------------------------------------------------

/-- Of distinct nonces, one more than the page has blocks as long as an opening, one is free. -/
theorem exists_isFree (hhex : ∀ k ≤ page.length / 25, IsHex (nonces k))
    (hdistinct : ∀ k ≤ page.length / 25, ∀ j < k, nonces j ≠ nonces k) :
    ∃ k ≤ page.length / 25, isFree page (nonces k) := by
  by_contra hnone
  have htaken : ∀ k ≤ page.length / 25, ∃ i, opening (nonces k) <+: page.drop i := by
    intro k hk
    refine exists_prefix_drop (Decidable.not_not.mp fun h => hnone ⟨k, hk, isFree_iff.mpr h⟩)
  choose! place hplace using htaken
  have hblock : ∀ k ∈ Finset.range (page.length / 25 + 1),
      place k / 25 ∈ Finset.range (page.length / 25) := by
    intro k hk
    have hk := Nat.le_of_lt_succ (Finset.mem_range.mp hk)
    have hlength := (hplace k hk).length_le
    rw [(hhex k hk).length_opening, List.length_drop] at hlength
    rw [Finset.mem_range]
    omega
  have hcard : (Finset.range (page.length / 25)).card <
      (Finset.range (page.length / 25 + 1)).card := by
    rw [Finset.card_range, Finset.card_range]
    exact Nat.lt_succ_self _
  obtain ⟨j, hj, k, hk, hne, hsame⟩ := Finset.exists_ne_map_eq_of_card_lt_of_maps_to hcard hblock
  have hj := Nat.le_of_lt_succ (Finset.mem_range.mp hj)
  have hk := Nat.le_of_lt_succ (Finset.mem_range.mp hk)
  rcases Nat.lt_trichotomy (place j) (place k) with hlt | heq | hlt
  · have := (hhex j hj).le_of_openings (hplace j hj) (hplace k hk) hlt
    omega
  · have hnonce := (hhex j hj).eq_of_openings (hhex k hk) (hplace j hj) (heq ▸ hplace k hk)
    rcases Nat.lt_or_gt_of_ne hne with hjk | hkj
    · exact hdistinct k hk j hjk hnonce
    · exact hdistinct j hj k hkj hnonce.symm
  · have := (hhex k hk).le_of_openings (hplace k hk) (hplace j hj) hlt
    omega

/-- Of distinct nonces the first is drawn whose opening is not on the page. For each before it the
page has twenty-five characters. -/
theorem freeNonce?_finds_first (hhex : ∀ k ≤ page.length / 25, IsHex (nonces k))
    (hdistinct : ∀ k ≤ page.length / 25, ∀ j < k, nonces j ≠ nonces k) :
    ∃ k ≤ page.length / 25,
      ¬opening (nonces k) <:+: page ∧ (∀ j < k, opening (nonces j) <:+: page) ∧
      freeNonce? nonces page = some (nonces k, k + 1) ∧
      ∀ fuel, k < fuel → search nonces page fuel 0 = some (nonces k, k + 1) := by
  have hexists := exists_isFree hhex hdistinct
  have hfirst : ∃ k ≤ page.length / 25, isFree page (nonces k) ∧
      ∀ j < k, ¬isFree page (nonces j) := by
    obtain ⟨hle, hfree⟩ := Nat.find_spec hexists
    refine ⟨Nat.find hexists, hle, hfree, fun j hj hfree => Nat.find_min hexists hj ⟨?_, hfree⟩⟩
    exact (Nat.le_of_lt hj).trans hle
  obtain ⟨k, hk, hfree, htaken⟩ := hfirst
  have hsearch : ∀ fuel, k < fuel → search nonces page fuel 0 = some (nonces k, k + 1) :=
    fun fuel hfuel => search_of_isFree hfree (fun j _ => htaken j) (Nat.zero_le k) (by omega)
  refine ⟨k, hk, isFree_iff.mp hfree, fun j hj => ?_, hsearch _ ?_, hsearch⟩
  · exact Decidable.not_not.mp fun h => htaken j hj (isFree_iff.mpr h)
  · exact Nat.lt_succ_of_le (hk.trans (Nat.div_le_self ..))

/-- A page with nothing but openings takes as many draws as there can be. -/
def fullPage : Text := opening (Text.hex 16 0) ++ opening (Text.hex 16 1)

theorem freeNonce?_finds_first_full :
    (∀ k ≤ fullPage.length / 25, IsHex (Text.hex 16 k)) ∧
      (∀ k ≤ fullPage.length / 25, ∀ j < k, Text.hex 16 j ≠ Text.hex 16 k) ∧
      fullPage.length = 50 ∧
      freeNonce? (Text.hex 16) fullPage = some ("0000000000000002".toList, 3) := by
  have hlength : fullPage.length = 50 := rfl
  have hhex : ∀ k ≤ fullPage.length / 25, IsHex (Text.hex 16 k) := by
    rw [hlength]
    decide
  have hdistinct : ∀ k ≤ fullPage.length / 25, ∀ j < k, Text.hex 16 j ≠ Text.hex 16 k := by
    rw [hlength]
    decide
  obtain ⟨k, hk, hfree, -, hfound, -⟩ := freeNonce?_finds_first hhex hdistinct
  have htaken : ∀ j < 2, opening (Text.hex 16 j) <:+: fullPage := by decide
  rw [hlength] at hk
  obtain rfl : k = 2 := Nat.le_antisymm hk (Nat.le_of_not_lt fun hlt => hfree (htaken k hlt))
  exact ⟨hhex, hdistinct, hlength, hfound⟩

end LuaMarkup.Marker
