import BuludTechVPN.NetworkRange

/-!
Longest-prefix match on a list of networks, and the rewritings of the list that leave every
match as it is: dropping a network inside one of the same mark, and replacing a network by
its halves.
-/

namespace BuludTechVPN.Space

open IpAddress

/-- `x` is a network of `M` with the longest prefix that contains `a`. -/
structure Longest (M : List IpAddress) (a : ℤ) (x : IpAddress) : Prop where
  mem : x ∈ M
  contains : x.Contains a
  longest : ∀ y ∈ M, y.Contains a → y.networkMask ≤ x.networkMask

/-- The longest prefix of `M` that contains `a` is marked `b`. -/
def Mark (M : List IpAddress) (a : ℤ) (b : Bool) : Prop := ∃ x, Longest M a x ∧ x.included = b

/-- Networks with one range carry one mark. -/
def Coherent (M : List IpAddress) : Prop :=
  ∀ x ∈ M, ∀ y ∈ M, x.networkMask = y.networkMask → x.getFirstAddress = y.getFirstAddress →
    x.included = y.included

variable {v b : Bool} {M R H : List IpAddress} {x y z : IpAddress} {a : ℤ}

lemma exists_longest (h : ∃ x ∈ M, x.Contains a) : ∃ x, Longest M a x := by
  induction M with
  | nil => simp at h
  | cons z M ih =>
    by_cases hM : ∃ x ∈ M, x.Contains a
    · obtain ⟨x, hx⟩ := ih hM
      by_cases hz : z.Contains a ∧ x.networkMask < z.networkMask
      · refine ⟨z, by simp, hz.1, fun y hy hya => ?_⟩
        rcases List.mem_cons.mp hy with rfl | hy
        · exact le_rfl
        · exact (hx.longest y hy hya).trans hz.2.le
      · refine ⟨x, by simp [hx.mem], hx.contains, fun y hy hya => ?_⟩
        rcases List.mem_cons.mp hy with rfl | hy
        · exact not_lt.mp fun hlt => hz ⟨hya, hlt⟩
        · exact hx.longest y hy hya
    · have hz : z.Contains a := by
        obtain ⟨x, hx, hxa⟩ := h
        rcases List.mem_cons.mp hx with rfl | hx
        · exact hxa
        · exact absurd ⟨x, hx, hxa⟩ hM
      refine ⟨z, by simp, hz, fun y hy hya => ?_⟩
      rcases List.mem_cons.mp hy with rfl | hy
      · exact le_rfl
      · exact absurd ⟨y, hy, hya⟩ hM

lemma mark_congr (h : ∀ x, x ∈ M ↔ x ∈ R) : Mark M a b ↔ Mark R a b := by
  constructor <;> rintro ⟨x, hx, hb⟩
  · exact ⟨x, ⟨(h x).mp hx.mem, hx.contains, fun y hy => hx.longest y ((h y).mpr hy)⟩, hb⟩
  · exact ⟨x, ⟨(h x).mpr hx.mem, hx.contains, fun y hy => hx.longest y ((h y).mp hy)⟩, hb⟩

/-- A network that does not contain `a` does not matter to `a`. -/
lemma mark_cons_of_not_contains (h : ¬ x.Contains a) : Mark (x :: R) a b ↔ Mark R a b := by
  constructor <;> rintro ⟨y, hy, hb⟩
  · rcases List.mem_cons.mp hy.mem with rfl | hm
    · exact absurd hy.contains h
    · exact ⟨y, ⟨hm, hy.contains, fun w hw => hy.longest w (by simp [hw])⟩, hb⟩
  · refine ⟨y, ⟨by simp [hy.mem], hy.contains, fun w hw hwa => ?_⟩, hb⟩
    rcases List.mem_cons.mp hw with rfl | hw
    · exact absurd hwa h
    · exact hy.longest w hw hwa

lemma mark_cons_of_apart (h : ∀ y ∈ R, ¬ y.Contains a) (hx : x.Contains a) :
    Mark (x :: R) a b ↔ x.included = b := by
  constructor
  · rintro ⟨y, hy, hb⟩
    rcases List.mem_cons.mp hy.mem with rfl | hm
    · exact hb
    · exact absurd hy.contains (h y hm)
  · refine fun hb => ⟨x, ⟨by simp, hx, fun y hy hya => ?_⟩, hb⟩
    rcases List.mem_cons.mp hy with rfl | hy
    · exact le_rfl
    · exact absurd hya (h y hy)

/-- **Dropping**: the network `x` may go if it lies in `z` and no network of the other mark
has a mask between theirs and an address of `x`. -/
lemma mark_drop (hz : z ∈ R) (hxz : ∀ a, x.Contains a → z.Contains a)
    (hmark : ∀ y ∈ R, ∀ a, x.Contains a → y.Contains a → z.networkMask ≤ y.networkMask →
      y.networkMask ≤ x.networkMask → y.included = x.included) :
    Mark (x :: R) a b ↔ Mark R a b := by
  by_cases hxa : x.Contains a
  · constructor <;> rintro ⟨w, hw, hb⟩
    · obtain ⟨y, hy⟩ := exists_longest ⟨z, hz, hxz a hxa⟩
      rcases List.mem_cons.mp hw.mem with rfl | hm
      · refine ⟨y, hy, ?_⟩
        rw [hmark y hy.mem a hxa hy.contains (hy.longest z hz (hxz a hxa))
          (hw.longest y (by simp [hy.mem]) hy.contains), hb]
      · exact ⟨w, ⟨hm, hw.contains, fun u hu => hw.longest u (by simp [hu])⟩, hb⟩
    · by_cases hlt : w.networkMask < x.networkMask
      · refine ⟨x, ⟨by simp, hxa, fun u hu hua => ?_⟩, ?_⟩
        · rcases List.mem_cons.mp hu with rfl | hu
          · exact le_rfl
          · exact (hw.longest u hu hua).trans hlt.le
        · rw [← hmark w hw.mem a hxa hw.contains (hw.longest z hz (hxz a hxa)) hlt.le, hb]
      · refine ⟨w, ⟨by simp [hw.mem], hw.contains, fun u hu hua => ?_⟩, hb⟩
        rcases List.mem_cons.mp hu with rfl | hu
        · exact not_lt.mp hlt
        · exact hw.longest u hu hua
  · exact mark_cons_of_not_contains hxa

/-- The halves of `z` that stand in for `z` beside the networks `R`: a half may be missing
where `R` has its range, and agrees with `R` where both have it. -/
structure Halves (z : IpAddress) (R H : List IpAddress) : Prop where
  sub : ∀ h ∈ H, h = z.split.1 ∨ h = z.split.2
  cover : ∀ h, h = z.split.1 ∨ h = z.split.2 → h ∈ H ∨
    ∃ y ∈ R, y.networkMask = h.networkMask ∧ y.getFirstAddress = h.getFirstAddress
  agree : ∀ h ∈ H, ∀ y ∈ R, y.networkMask = h.networkMask →
    y.getFirstAddress = h.getFirstAddress → y.included = z.included

lemma Halves.included (hH : Halves z R H) {h : IpAddress} (hh : h ∈ H) :
    h.included = z.included := by
  rcases hH.sub h hh with rfl | rfl <;> rfl

lemma Halves.mask (hH : Halves z R H) {h : IpAddress} (hh : h ∈ H) :
    h.networkMask = z.networkMask + 1 := by
  rcases hH.sub h hh with rfl | rfl <;> rfl

lemma Halves.valid (hH : Halves z R H) (hz : z.Valid v) (hlt : z.networkMask < z.width)
    {h : IpAddress} (hh : h ∈ H) : h.Valid v := by
  rcases hH.sub h hh with rfl | rfl
  · exact (hz.split hlt).1
  · exact (hz.split hlt).2

lemma Halves.coherent (hH : Halves z R H) (hR : Coherent R) : Coherent (H ++ R) := by
  intro x hx y hy hm hf
  rcases List.mem_append.mp hx with hx | hx <;> rcases List.mem_append.mp hy with hy | hy
  · rw [hH.included hx, hH.included hy]
  · rw [hH.included hx, hH.agree x hx y hy hm.symm hf.symm]
  · rw [hH.included hy, hH.agree y hy x hx hm hf]
  · exact hR x hx y hy hm hf

/-- **Splitting**: a network may be replaced by its halves. -/
lemma mark_split (hz : z.Valid v) (hlt : z.networkMask < z.width) (hR : ∀ y ∈ R, y.Valid v)
    (hc : Coherent (z :: R)) (hH : Halves z R H) : Mark (H ++ R) a b ↔ Mark (z :: R) a b := by
  have hhalf : ∀ h ∈ H, h.Contains a → z.Contains a := by
    intro h hh hha
    rw [hz.split_contains hlt]
    rcases hH.sub h hh with rfl | rfl
    · exact Or.inl hha
    · exact Or.inr hha
  by_cases hza : z.Contains a
  · obtain ⟨h, hh, hha⟩ : ∃ h, (h = z.split.1 ∨ h = z.split.2) ∧ h.Contains a := by
      rcases (hz.split_contains hlt).mp hza with h | h
      · exact ⟨_, Or.inl rfl, h⟩
      · exact ⟨_, Or.inr rfl, h⟩
    have hhv : h.Valid v := by
      rcases hh with rfl | rfl
      · exact (hz.split hlt).1
      · exact (hz.split hlt).2
    have hhm : h.networkMask = z.networkMask + 1 := by rcases hh with rfl | rfl <;> rfl
    have hhi : h.included = z.included := by rcases hh with rfl | rfl <;> rfl
    constructor <;> rintro ⟨w, hw, hb⟩
    · -- the match among the halves and the rest
      rcases List.mem_append.mp hw.mem with hm | hm
      · by_cases hy : ∃ y ∈ R, y.Contains a ∧ y.networkMask = w.networkMask
        · obtain ⟨y, hyR, hya, hym⟩ := hy
          have hwv : w.Valid v := hH.valid hz hlt hm
          have hf := first_eq_of_mask_eq (hR y hyR) hwv hya hw.contains hym
          refine ⟨y, ⟨by simp [hyR], hya, fun u hu hua => ?_⟩, ?_⟩
          · rcases List.mem_cons.mp hu with rfl | hu
            · have := hH.mask hm; omega
            · rw [hym]; exact hw.longest u (by simp [hu]) hua
          · rw [hH.agree w hm y hyR hym hf, ← hH.included hm, hb]
        · refine ⟨z, ⟨by simp, hza, fun u hu hua => ?_⟩, by rw [← hH.included hm, hb]⟩
          rcases List.mem_cons.mp hu with rfl | hu
          · exact le_rfl
          · have h1 := hw.longest u (by simp [hu]) hua
            have h2 : u.networkMask ≠ w.networkMask := fun e => hy ⟨u, hu, hua, e⟩
            have h3 := hH.mask hm
            omega
      · refine ⟨w, ⟨by simp [hm], hw.contains, fun u hu hua => ?_⟩, hb⟩
        rcases List.mem_cons.mp hu with rfl | hu
        · have h1 : h.networkMask ≤ w.networkMask := by
            rcases hH.cover h hh with hmem | ⟨y, hyR, hym, hyf⟩
            · exact hw.longest h (by simp [hmem]) hha
            · rw [← hym]
              refine hw.longest y (by simp [hyR]) ?_
              have e : y.bits = h.bits := by
                have h2 := (hR y hyR).bits_eq
                have h3 := hhv.bits_eq
                have h4 := (hR y hyR).width_eq hhv
                omega
              rw [contains_iff, e, hyf]
              exact contains_iff.mp hha
          omega
        · exact hw.longest u (by simp [hu]) hua
    · -- the match of the network and the rest
      have hmax : ∀ u ∈ R, u.Contains a → u.networkMask ≤ w.networkMask :=
        fun u hu => hw.longest u (by simp [hu])
      by_cases hwz : w.networkMask = z.networkMask
      · have hi : w.included = z.included := by
          rcases List.mem_cons.mp hw.mem with rfl | hm
          · rfl
          · exact hc w (by simp [hm]) z (by simp) hwz
              (first_eq_of_mask_eq (hR w hm) hz hw.contains hza hwz)
        have hmem : h ∈ H := by
          rcases hH.cover h hh with hmem | ⟨y, hyR, hym, hyf⟩
          · exact hmem
          · have e : y.bits = h.bits := by
              have h2 := (hR y hyR).bits_eq
              have h3 := hhv.bits_eq
              have h4 := (hR y hyR).width_eq hhv
              omega
            have hya : y.Contains a := by
              rw [contains_iff, e, hyf]; exact contains_iff.mp hha
            have := hmax y hyR hya
            omega
        refine ⟨h, ⟨by simp [hmem], hha, fun u hu hua => ?_⟩, by rw [hhi, ← hi, hb]⟩
        rcases List.mem_append.mp hu with hu | hu
        · rw [hH.mask hu, hhm]
        · have := hmax u hu hua; omega
      · have hge : z.networkMask ≤ w.networkMask := hw.longest z (by simp) hza
        have hm : w ∈ R := by
          rcases List.mem_cons.mp hw.mem with rfl | hm
          · exact absurd rfl hwz
          · exact hm
        refine ⟨w, ⟨by simp [hm], hw.contains, fun u hu hua => ?_⟩, hb⟩
        rcases List.mem_append.mp hu with hu | hu
        · have := hH.mask hu; omega
        · exact hmax u hu hua
  · rw [mark_cons_of_not_contains hza]
    constructor <;> rintro ⟨w, hw, hb⟩
    · rcases List.mem_append.mp hw.mem with hm | hm
      · exact absurd (hhalf w hm hw.contains) hza
      · exact ⟨w, ⟨hm, hw.contains, fun u hu => hw.longest u (by simp [hu])⟩, hb⟩
    · refine ⟨w, ⟨by simp [hw.mem], hw.contains, fun u hu hua => ?_⟩, hb⟩
      rcases List.mem_append.mp hu with hu | hu
      · exact absurd (hhalf u hu hua) hza
      · exact hw.longest u hu hua

end BuludTechVPN.Space
