import BuludTechVPN.RouteList
import Mathlib.Data.Nat.Digits.Lemmas

/-!
Addresses as texts: which texts are addresses of either family, and which address a text
denotes.

A text with `::` stands for one group of zeros or more. The form that ends in four octets is
not read, since no text of the program has it.
-/

namespace BuludTechVPN.AddressText

open JavaLang

/-! ### Digits -/

/-- The value of digits, the highest one first. -/
def valueOf (b : ℕ) (ds : List ℕ) : ℕ := Nat.ofDigits b ds.reverse

lemma valueOf_lt {b : ℕ} {ds : List ℕ} (hb : 1 < b) (h : ∀ d ∈ ds, d < b) :
    valueOf b ds < b ^ ds.length := by
  rw [← List.length_reverse]
  exact Nat.ofDigits_lt_base_pow_length hb fun d hd => h d (List.mem_reverse.mp hd)

/-- Zeros behind the digits. -/
lemma valueOf_zeros (b : ℕ) (ds : List ℕ) (k : ℕ) :
    valueOf b (ds ++ List.replicate k 0) = valueOf b ds * b ^ k := by
  unfold valueOf
  rw [List.reverse_append, List.reverse_replicate, Nat.ofDigits_append, Nat.ofDigits_replicate_zero,
    List.length_replicate, zero_add, mul_comm]

lemma valueOf_digits (b n : ℕ) : valueOf b (Nat.digits b n).reverse = n := by
  rw [valueOf, List.reverse_reverse, Nat.ofDigits_digits]

lemma valueOf_concat (b : ℕ) (ds : List ℕ) (d : ℕ) :
    valueOf b (ds ++ [d]) = valueOf b ds * b + d := by
  unfold valueOf
  rw [List.reverse_append, List.reverse_singleton, List.singleton_append, Nat.ofDigits_cons]
  ring

/-- Reading what was written piece by piece. -/
lemma mapM_written {α β : Type} {f : α → Option β} {w : β → α} {l : List β}
    (h : ∀ b ∈ l, f (w b) = some b) : (l.map w).mapM f = some l := by
  induction l with
  | nil => rfl
  | cons b l ih =>
    rw [List.map_cons, List.mapM_cons, h b List.mem_cons_self,
      ih fun c hc => h c (List.mem_cons_of_mem b hc)]
    rfl

lemma mapM_some {α β : Type} {f : α → Option β} {l : List α} {bs : List β}
    (h : l.mapM f = some bs) : bs.length = l.length ∧ ∀ b ∈ bs, ∃ a, f a = some b := by
  induction l generalizing bs with
  | nil =>
    obtain rfl := Option.some.inj h
    simp
  | cons a l ih =>
    rw [List.mapM_cons] at h
    obtain ⟨b, hb, h⟩ := Option.bind_eq_some_iff.mp h
    obtain ⟨cs, hcs, h⟩ := Option.bind_eq_some_iff.mp h
    obtain rfl := Option.some.inj h
    obtain ⟨hlen, hall⟩ := ih hcs
    refine ⟨by simp [hlen], fun c hc => ?_⟩
    rcases List.mem_cons.mp hc with rfl | hc
    · exact ⟨a, hb⟩
    · exact hall c hc

/-! ### IPv4 -/

/-- A number below 256 in decimal digits, without leading zeros. -/
def octet (s : Text) : Option ℕ := (List.range 256).find? fun n => showInt n = s

/-- The address that a dotted text denotes, none if it is no address. -/
def readIPv4 (s : Text) : Option ℕ := do
  let octets ← (s.splitOn '.').mapM octet
  if octets.length = 4 then some (valueOf 256 octets) else none

lemma octet_lt {s : Text} {n : ℕ} (h : octet s = some n) : n < 256 :=
  List.mem_range.mp (List.mem_of_find?_eq_some h)

lemma octet_showInt {n : ℕ} (h : n < 256) : octet (showInt n) = some n := by
  have hsome : ((List.range 256).find? fun m : ℕ => showInt m = showInt n).isSome := by
    rw [List.find?_isSome]
    exact ⟨n, List.mem_range.mpr h, by simp⟩
  obtain ⟨m, hm⟩ := Option.isSome_iff_exists.mp hsome
  have hmn : (m : ℤ) = n := showInt_inj (by simpa using List.find?_some hm)
  rw [octet, hm, Int.ofNat_inj.mp hmn]

lemma readIPv4_lt {s : Text} {n : ℕ} (h : readIPv4 s = some n) : n < 2 ^ 32 := by
  obtain ⟨octets, hm, h⟩ := Option.bind_eq_some_iff.mp h
  split at h
  next hlen =>
    obtain rfl := Option.some.inj h
    have hlt : valueOf 256 octets < 256 ^ octets.length := valueOf_lt (by decide) fun d hd => by
      obtain ⟨_, hd⟩ := (mapM_some hm).2 d hd
      exact octet_lt hd
    rw [hlen] at hlt
    exact hlt
  next => cases h

/-- The text of four octets. -/
lemma readIPv4_octets {a b c d : ℕ} (ha : a < 256) (hb : b < 256) (hc : c < 256) (hd : d < 256) :
    readIPv4 (showInt a ++ '.' :: showInt b ++ '.' :: showInt c ++ '.' :: showInt d) =
      some (valueOf 256 [a, b, c, d]) := by
  have hjoin : showInt a ++ '.' :: showInt b ++ '.' :: showInt c ++ '.' :: showInt d =
      ['.'].intercalate ([a, b, c, d].map fun n : ℕ => showInt n) := by
    simp [List.intercalate_cons_cons]
  have hsplit : (['.'].intercalate ([a, b, c, d].map fun n : ℕ => showInt n)).splitOn '.' =
      [a, b, c, d].map fun n : ℕ => showInt n := by
    refine List.splitOn_intercalate '.' ?_ (by simp)
    intro w hw
    obtain ⟨n, -, rfl⟩ := List.mem_map.mp hw
    exact other_not_mem_showInt (by decide) (by decide) n
  have hread : ([a, b, c, d].map fun n : ℕ => showInt n).mapM octet = some [a, b, c, d] := by
    refine mapM_written fun n hn => octet_showInt ?_
    simp only [List.mem_cons, List.not_mem_nil, or_false] at hn
    omega
  rw [readIPv4, hjoin, hsplit, hread]
  rfl

/-! ### IPv6 -/

def hexDigit (c : Char) : Option ℕ :=
  if '0' ≤ c ∧ c ≤ '9' then some (c.toNat - '0'.toNat)
  else if 'a' ≤ c ∧ c ≤ 'f' then some (c.toNat - 'a'.toNat + 10)
  else if 'A' ≤ c ∧ c ≤ 'F' then some (c.toNat - 'A'.toNat + 10)
  else none

/-- One to four hexadecimal digits. -/
def group (s : Text) : Option ℕ :=
  if s ≠ [] ∧ s.length ≤ 4 then (s.mapM hexDigit).map (valueOf 16) else none

/-- Groups with colons between them. -/
def groups (s : Text) : Option (List ℕ) :=
  if s = [] then some [] else (s.splitOn ':').mapM group

/-- What stands before and behind the first `::`. -/
def atDouble : Text → Option (Text × Text)
  | [] => none
  | c :: s =>
    if c = ':' ∧ s.head? = some ':' then some ([], s.tail)
    else (atDouble s).map fun p => (c :: p.1, p.2)

/-- The address that a text with colons denotes, none if it is no address. -/
def readIPv6 (s : Text) : Option ℕ :=
  match atDouble s with
  | none => do
    let gs ← groups s
    if gs.length = 8 then some (valueOf 0x10000 gs) else none
  | some (before, behind) => do
    let gs ← groups before
    let hs ← groups behind
    if gs.length + hs.length ≤ 7 then
      some (valueOf 0x10000 (gs ++ List.replicate (8 - (gs.length + hs.length)) 0 ++ hs))
    else none

lemma hexDigit_lt {c : Char} {n : ℕ} (h : hexDigit c = some n) : n < 16 := by
  have hle : ∀ {a b : Char}, a ≤ b → a.toNat ≤ b.toNat := fun h => h
  unfold hexDigit at h
  split_ifs at h with h1 h2 h3
  · obtain rfl := Option.some.inj h
    have : c.toNat ≤ 57 := hle h1.2
    have : '0'.toNat = 48 := rfl
    omega
  · obtain rfl := Option.some.inj h
    have : c.toNat ≤ 102 := hle h2.2
    have : 'a'.toNat = 97 := rfl
    omega
  · obtain rfl := Option.some.inj h
    have : c.toNat ≤ 70 := hle h3.2
    have : 'A'.toNat = 65 := rfl
    omega

lemma group_lt {s : Text} {n : ℕ} (h : group s = some n) : n < 0x10000 := by
  unfold group at h
  split_ifs at h with hs
  obtain ⟨ds, hm, rfl⟩ := Option.map_eq_some_iff.mp h
  obtain ⟨hlen, hall⟩ := mapM_some hm
  have hlt : valueOf 16 ds < 16 ^ ds.length := valueOf_lt (by decide) fun d hd => by
    obtain ⟨_, hd⟩ := hall d hd
    exact hexDigit_lt hd
  calc valueOf 16 ds < 16 ^ ds.length := hlt
    _ ≤ 16 ^ 4 := Nat.pow_le_pow_right (by decide) (hlen ▸ hs.2)

lemma groups_lt {s : Text} {gs : List ℕ} (h : groups s = some gs) : ∀ g ∈ gs, g < 0x10000 := by
  unfold groups at h
  split_ifs at h
  · obtain rfl := Option.some.inj h
    simp
  · intro g hg
    obtain ⟨_, hg⟩ := (mapM_some h).2 g hg
    exact group_lt hg

lemma readIPv6_lt {s : Text} {n : ℕ} (h : readIPv6 s = some n) : n < 2 ^ 128 := by
  have height : ∀ {gs : List ℕ}, gs.length = 8 → (∀ g ∈ gs, g < 0x10000) →
      valueOf 0x10000 gs < 2 ^ 128 := fun {gs} hlen hgs => by
    have := valueOf_lt (by decide) hgs
    rwa [hlen] at this
  unfold readIPv6 at h
  split at h
  · obtain ⟨gs, hgs, h⟩ := Option.bind_eq_some_iff.mp h
    split_ifs at h with hlen
    obtain rfl := Option.some.inj h
    exact height hlen (groups_lt hgs)
  · obtain ⟨gs, hgs, h⟩ := Option.bind_eq_some_iff.mp h
    obtain ⟨hs, hhs, h⟩ := Option.bind_eq_some_iff.mp h
    split_ifs at h with hlen
    obtain rfl := Option.some.inj h
    refine height (by simp; omega) fun g hg => ?_
    rcases List.mem_append.mp hg with hg | hg
    · rcases List.mem_append.mp hg with hg | hg
      · exact groups_lt hgs g hg
      · rw [List.eq_of_mem_replicate hg]
        decide
    · exact groups_lt hhs g hg

/-! ### Written groups -/

/-- `%x`. -/
def hex (n : ℕ) : Text := Nat.toDigits 16 n

lemma hexDigit_digitChar {d : ℕ} (h : d < 16) : hexDigit d.digitChar = some d := by
  have hall : ∀ d < 16, hexDigit d.digitChar = some d := by decide
  exact hall d h

lemma mapM_hex (n : ℕ) : ∃ ds, (hex n).mapM hexDigit = some ds ∧ valueOf 16 ds = n := by
  induction n using Nat.strong_induction_on with
  | _ n ih =>
    unfold hex
    by_cases h : n < 16
    · refine ⟨[n], ?_, by simp [valueOf]⟩
      rw [Nat.toDigits_of_lt_base h, List.mapM_cons, hexDigit_digitChar h]
      rfl
    · obtain ⟨ds, hds, hv⟩ := ih (n / 16) (by omega)
      have hlow := hexDigit_digitChar (d := n % 16) (by omega)
      refine ⟨ds ++ [n % 16], ?_, ?_⟩
      · rw [Nat.toDigits_of_base_le (by decide) (by omega), List.mapM_append,
          show (Nat.toDigits 16 (n / 16)).mapM hexDigit = some ds from hds, List.mapM_cons, hlow]
        rfl
      · rw [valueOf_concat, hv]
        omega

lemma group_hex {n : ℕ} (h : n < 0x10000) : group (hex n) = some n := by
  have hlen : (hex n).length ≤ 4 := (Nat.length_toDigits_le_iff (by decide) (by decide)).mpr h
  obtain ⟨ds, hds, hv⟩ := mapM_hex n
  rw [group, if_pos ⟨Nat.toDigits_ne_nil, hlen⟩, hds, Option.map_some, hv]

lemma colon_not_mem_hex (n : ℕ) : ':' ∉ hex n := by
  intro h
  obtain ⟨ds, hds, -⟩ := mapM_hex n
  have hnone : hexDigit ':' = none := by decide
  generalize hex n = s at h hds
  induction s generalizing ds with
  | nil => cases h
  | cons c s ih =>
    rw [List.mapM_cons] at hds
    obtain ⟨d, hd, hds⟩ := Option.bind_eq_some_iff.mp hds
    obtain ⟨es, hes, -⟩ := Option.bind_eq_some_iff.mp hds
    rcases List.mem_cons.mp h with rfl | h
    · rw [hnone] at hd
      cases hd
    · exact ih es h hes

/-- Groups as they are written, with colons between them. -/
def written (gs : List ℕ) : Text := [':'].intercalate (gs.map hex)

lemma written_cons_cons (g h : ℕ) (gs : List ℕ) :
    written (g :: h :: gs) = hex g ++ ':' :: written (h :: gs) := by
  simp [written, List.intercalate_cons_cons]

lemma groups_written {gs : List ℕ} (hgs : ∀ g ∈ gs, g < 0x10000) (hne : gs ≠ []) :
    groups (written gs) = some gs := by
  have hsplit : (written gs).splitOn ':' = gs.map hex := by
    refine List.splitOn_intercalate ':' ?_ (by simpa using hne)
    intro w hw
    obtain ⟨n, -, rfl⟩ := List.mem_map.mp hw
    exact colon_not_mem_hex n
  have hnil : written gs ≠ [] := by
    intro h
    rw [h, List.splitOn_nil] at hsplit
    cases gs with
    | nil => exact hne rfl
    | cons g gs => exact Nat.toDigits_ne_nil (List.cons.inj hsplit).1.symm
  rw [groups, if_neg hnil, hsplit]
  exact mapM_written fun g hg => group_hex (hgs g hg)

/-- Text without colons before others. -/
lemma atDouble_append {w : Text} (hw : ':' ∉ w) (s : Text) :
    atDouble (w ++ s) = (atDouble s).map fun p => (w ++ p.1, p.2) := by
  induction w with
  | nil => simp
  | cons c w ih =>
    have hc : c ≠ ':' := fun e => hw (e ▸ List.mem_cons_self)
    rw [List.cons_append, atDouble, if_neg fun h => hc h.1,
      ih fun h => hw (List.mem_cons_of_mem c h), Option.map_map]
    rfl

/-- A single colon before a group. -/
lemma atDouble_colon (n : ℕ) (s : Text) :
    atDouble (':' :: hex n ++ s) = (atDouble (hex n ++ s)).map fun p => (':' :: p.1, p.2) := by
  have hhead : (hex n ++ s).head? ≠ some ':' := by
    cases hn : hex n with
    | nil => exact absurd hn Nat.toDigits_ne_nil
    | cons c w =>
      intro h
      have : c = ':' := by simpa using h
      exact colon_not_mem_hex n (hn ▸ this ▸ List.mem_cons_self)
  rw [List.cons_append, atDouble, if_neg fun h => hhead h.2]

lemma atDouble_written {gs : List ℕ} (hne : gs ≠ []) (s : Text) :
    atDouble (written gs ++ s) = (atDouble s).map fun p => (written gs ++ p.1, p.2) := by
  induction gs with
  | nil => exact absurd rfl hne
  | cons g gs ih =>
    cases gs with
    | nil => simpa [written] using atDouble_append (colon_not_mem_hex g) s
    | cons h gs =>
      have htail := ih (by simp)
      obtain ⟨t, ht⟩ : ∃ t, written (h :: gs) = hex h ++ t := by
        cases gs with
        | nil => exact ⟨[], by simp [written]⟩
        | cons i gs => exact ⟨_, written_cons_cons h i gs⟩
      have hcolon : atDouble (':' :: written (h :: gs) ++ s) =
          (atDouble (written (h :: gs) ++ s)).map fun p => (':' :: p.1, p.2) := by
        rw [ht]
        simpa [List.append_assoc] using atDouble_colon h (t ++ s)
      rw [written_cons_cons, List.append_assoc, atDouble_append (colon_not_mem_hex g), hcolon,
        htail, Option.map_map, Option.map_map]
      congr 1
      funext p
      simp

lemma readIPv6_written {gs : List ℕ} (hgs : ∀ g ∈ gs, g < 0x10000) (hne : gs ≠ []) :
    readIPv6 (written gs) = if gs.length = 8 then some (valueOf 0x10000 gs) else none := by
  have hat : atDouble (written gs) = none := by
    simpa [atDouble] using atDouble_written hne []
  rw [readIPv6, hat]
  simp only
  rw [groups_written hgs hne]
  rfl

lemma readIPv6_written_zeros {gs : List ℕ} (hgs : ∀ g ∈ gs, g < 0x10000) (hne : gs ≠ []) :
    readIPv6 (written gs ++ "::".toList) =
      if gs.length ≤ 7 then some (valueOf 0x10000 gs * 0x10000 ^ (8 - gs.length)) else none := by
  have hat : atDouble (written gs ++ "::".toList) = some (written gs, []) := by
    rw [atDouble_written hne]
    simp [atDouble]
  rw [readIPv6, hat]
  simp only
  rw [groups_written hgs hne, show groups [] = some [] from rfl]
  simp only [Option.bind_eq_bind, Option.bind_some, List.length_nil, add_zero, List.append_nil,
    valueOf_zeros]

/-! ### The texts of `NetworkSpace` -/

open Space Space.IpAddress

/-- The groups of an address from the first one that is not zero. -/
def shownGroups (b : ℕ) : List ℕ := (Nat.digits 0x10000 b).reverse

lemma shownGroups_step {b : ℕ} (h : b ≠ 0) :
    shownGroups b = shownGroups (b / 0x10000) ++ [b % 0x10000] := by
  rw [shownGroups, Nat.digits_def' (by decide) (Nat.pos_of_ne_zero h), List.reverse_cons]
  rfl

lemma shownGroups_lt (b : ℕ) : ∀ g ∈ shownGroups b, g < 0x10000 := fun _ hg =>
  Nat.digits_lt_base (by decide) (List.mem_reverse.mp hg)

lemma shownGroups_ne_nil {b : ℕ} (h : b ≠ 0) : shownGroups b ≠ [] := by
  rw [shownGroups_step h]
  simp

lemma shownGroups_length_le {b n : ℕ} : (shownGroups b).length ≤ n ↔ b < 0x10000 ^ n := by
  rw [shownGroups, List.length_reverse, Nat.digits_length_le_iff (by decide)]

/-- Groups are written before those that are written already. -/
lemma ipv6Groups_some (r : ℕ) (gs : List ℕ) (hne : gs ≠ []) (zeros : Text) :
    ipv6Groups r (some (written gs ++ zeros)) false =
      some (written (shownGroups r ++ gs) ++ zeros) := by
  induction r using Nat.strong_induction_on generalizing gs with
  | _ r ih =>
    rw [ipv6Groups]
    split
    next h0 => simp [h0, shownGroups]
    next h0 =>
      have hcons : written ((r % 0x10000) :: gs) = hex (r % 0x10000) ++ ':' :: written gs := by
        cases gs with
        | nil => exact absurd rfl hne
        | cons g gs => exact written_cons_cons _ g gs
      have hstep := ih (r / 0x10000) (by omega) ((r % 0x10000) :: gs) (by simp)
      rw [hcons, List.append_assoc, List.cons_append] at hstep
      simp only [Bool.false_eq_true, if_false]
      rw [show Nat.toDigits 16 (r % 0x10000) = hex (r % 0x10000) from rfl, hstep,
        shownGroups_step h0, List.append_assoc, List.singleton_append]

/-- The text is that of the groups down to the last one that is not zero; `::` follows where
groups of zeros were left out. -/
lemma ipv6Groups_none (b k : ℕ) (hb : b % 0x10000 ≠ 0) (last : Bool) :
    ipv6Groups (b * 0x10000 ^ k) none last =
      some (written (shownGroups b) ++ if k = 0 ∧ last = true then [] else "::".toList) := by
  induction k generalizing last with
  | zero =>
    have hshown := shownGroups_step (b := b) fun h => hb (by rw [h])
    have hhex : hex (b % 0x10000) = written [b % 0x10000] := by simp [written]
    rw [pow_zero, mul_one, ipv6Groups, if_neg (by omega)]
    simp only [hb, if_false, true_and]
    rw [show Nat.toDigits 16 (b % 0x10000) = hex (b % 0x10000) from rfl, hhex, hshown]
    cases last with
    | true => simpa using ipv6Groups_some (b / 0x10000) [b % 0x10000] (by simp) []
    | false => simpa using ipv6Groups_some (b / 0x10000) [b % 0x10000] (by simp) "::".toList
  | succ k ih =>
    have hpos : 0 < b * 0x10000 ^ k := by
      have : 0 < b := by omega
      positivity
    have hr : b * 0x10000 ^ (k + 1) = b * 0x10000 ^ k * 0x10000 := by ring
    rw [hr, ipv6Groups, if_neg (by omega), Nat.mul_mod_left, Nat.mul_div_cancel _ (by decide)]
    simpa using ih false

/-- Every address but `::` is its last group that is not zero, and those before it, followed by
groups of zeros. -/
lemma exists_shown {a : ℕ} (h : a ≠ 0) : ∃ b k, b % 0x10000 ≠ 0 ∧ a = b * 0x10000 ^ k := by
  induction a using Nat.strong_induction_on with
  | _ a ih =>
    by_cases hmod : a % 0x10000 = 0
    · obtain ⟨b, k, hb, hk⟩ := ih (a / 0x10000) (by omega) (by omega)
      refine ⟨b, k + 1, hb, ?_⟩
      rw [pow_succ, ← mul_assoc, ← hk]
      omega
    · exact ⟨a, 0, hmod, by simp⟩

lemma le_of_shownGroups {b : ℕ} (h : b ≠ 0) : 0x10000 ^ ((shownGroups b).length - 1) ≤ b := by
  have hpos := List.length_pos_of_ne_nil (shownGroups_ne_nil h)
  refine not_lt.mp fun hlt => ?_
  have := shownGroups_length_le.mpr hlt
  omega

/-- How many groups an address has from the first one that is not zero. -/
lemma shown_length {b k n : ℕ} (hb : b ≠ 0) :
    (shownGroups b).length + k ≤ n ↔ b * 0x10000 ^ k < 0x10000 ^ n := by
  have hlow := le_of_shownGroups hb
  have hhigh := shownGroups_length_le.mp (le_refl (shownGroups b).length)
  have hpos := List.length_pos_of_ne_nil (shownGroups_ne_nil hb)
  generalize (shownGroups b).length = len at hlow hhigh hpos ⊢
  constructor
  · intro h
    calc b * 0x10000 ^ k < 0x10000 ^ len * 0x10000 ^ k := by gcongr
      _ = 0x10000 ^ (len + k) := by rw [pow_add]
      _ ≤ 0x10000 ^ n := Nat.pow_le_pow_right (by decide) h
  · intro h
    have hlt : 0x10000 ^ (len - 1 + k) < 0x10000 ^ n := by
      calc 0x10000 ^ (len - 1 + k) = 0x10000 ^ (len - 1) * 0x10000 ^ k := by rw [pow_add]
        _ ≤ b * 0x10000 ^ k := by gcongr
        _ < 0x10000 ^ n := h
    have := (Nat.pow_lt_pow_iff_right (by decide)).mp hlt
    omega

/-- What the text of an address that is not zero reads as. -/
lemma readIPv6_shown {b k : ℕ} (hb : b % 0x10000 ≠ 0) :
    readIPv6 ((ipv6Groups (b * 0x10000 ^ k) none true).getD "::".toList) =
      if k = 0 then if (shownGroups b).length = 8 then some b else none
      else if (shownGroups b).length ≤ 7 then some (b * 0x10000 ^ (8 - (shownGroups b).length))
      else none := by
  have hne : b ≠ 0 := fun h => hb (by rw [h])
  have hvalue : valueOf 0x10000 (shownGroups b) = b := valueOf_digits _ _
  rw [ipv6Groups_none b k hb, Option.getD_some]
  by_cases hk : k = 0
  · rw [if_pos (⟨hk, rfl⟩ : k = 0 ∧ true = true), if_pos hk, List.append_nil,
      readIPv6_written (shownGroups_lt b) (shownGroups_ne_nil hne), hvalue]
  · rw [if_neg (fun h => hk h.1 : ¬ (k = 0 ∧ true = true)), if_neg hk,
      readIPv6_written_zeros (shownGroups_lt b) (shownGroups_ne_nil hne), hvalue]

/-- The address `::`, and one whose first group is not zero, read as themselves. -/
lemma readIPv6_self {a : ℕ} (h : a = 0 ∨ 2 ^ 112 ≤ a ∧ a < 2 ^ 128) :
    readIPv6 ((ipv6Groups a none true).getD "::".toList) = some a := by
  by_cases h0 : a = 0
  · subst h0
    rw [ipv6Groups]
    rfl
  · obtain ⟨hlow, hhigh⟩ := h.resolve_left h0
    obtain ⟨b, k, hb, rfl⟩ := exists_shown h0
    have hne : b ≠ 0 := fun h => hb (by rw [h])
    have h8 := (shown_length (k := k) (n := 8) hne).mpr hhigh
    have h7 := (shown_length (k := k) (n := 7) hne).not.mpr (not_lt.mpr hlow)
    rw [readIPv6_shown hb]
    split
    next hk => rw [if_pos (by omega), hk, pow_zero, mul_one]
    next hk => rw [if_pos (by omega), show 8 - (shownGroups b).length = k by omega]

/-- Any other address reads as a greater one, if at all: the groups of zeros before its first
other group are left out. -/
lemma lt_of_readIPv6 {a n : ℕ} (h0 : a ≠ 0) (hlt : a < 2 ^ 112)
    (h : readIPv6 ((ipv6Groups a none true).getD "::".toList) = some n) : a < n := by
  obtain ⟨b, k, hb, rfl⟩ := exists_shown h0
  have hne : b ≠ 0 := fun h => hb (by rw [h])
  have h7 := (shown_length (k := k) (n := 7) hne).mpr hlt
  rw [readIPv6_shown hb] at h
  split at h
  next hk => rw [if_neg (by omega)] at h; cases h
  next hk =>
    rw [if_pos (by omega)] at h
    obtain rfl := Option.some.inj h
    have hpow : 0x10000 ^ k < 0x10000 ^ (8 - (shownGroups b).length) :=
      Nat.pow_lt_pow_right (by decide) (by omega)
    exact Nat.mul_lt_mul_of_pos_left hpow (Nat.pos_of_ne_zero hne)

/-- The text of an address of 32 bits. -/
lemma readIPv4_self {x : IpAddress} (h0 : 0 ≤ x.netAddress) (h : x.netAddress < 2 ^ 32) :
    readIPv4 x.getIPv4Address = some x.netAddress.toNat := by
  obtain ⟨a, ha⟩ := Int.eq_ofNat_of_zero_le h0
  have hlong : toLong x.netAddress = a := by
    rw [ha, toLong_of_range (by omega) (by omega)]
  have hoctet : ∀ q : ℕ, ((q : ℤ).tmod 256) = ((q % 256 : ℕ) : ℤ) := fun q => by
    rw [Int.tmod_eq_emod_of_nonneg (by omega)]
    rfl
  have hdiv : ∀ m : ℕ, (a : ℤ) / 2 ^ m = ((a / 2 ^ m : ℕ) : ℤ) := fun m => by push_cast; rfl
  rw [getIPv4Address, hlong]
  simp only [hdiv, hoctet]
  rw [readIPv4_octets (by omega) (by omega) (by omega) (by omega), ha]
  simp only [valueOf, List.reverse_cons, List.reverse_nil, List.nil_append, List.cons_append,
    Nat.ofDigits_cons, Nat.ofDigits_nil, Int.toNat_natCast]
  congr 1
  omega

end BuludTechVPN.AddressText
