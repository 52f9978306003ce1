import BuludTechVPN.TunCycles

/-!
The text by which `getTunReopenStatus` compares two tun configurations.

The settings stand in the text under keywords, and no separator stands between an IPv4 part and
the IPv6 part behind it. `openTun` writes it once the local networks are among the routes;
`getTunReopenStatus` writes it before they are.
-/

namespace BuludTechVPN.Tun

open JavaLang Cidr Space

variable {d d₁ d₂ : Device} {s t l a b u : Service} {settings : List Setting} {v : Bool}

/-! ### The same settings -/

/-- The networks of two sets, each in its order, are equal as `ipAddress.equals` has it. -/
def SameNetworks (l l' : List IpAddress) : Prop := List.Forall₂ (fun x y => x.equals y) l l'

/-- Two services hold the same settings of a tun device. -/
structure Same (s t : Service) : Prop where
  mLocalIP : s.mLocalIP = t.mLocalIP
  mLocalIPv6 : s.mLocalIPv6 = t.mLocalIPv6
  mRoutes : ∀ included, SameNetworks (s.mRoutes.getNetworks included)
    (t.mRoutes.getNetworks included)
  mRoutesv6 : ∀ included, SameNetworks (s.mRoutesv6.getNetworks included)
    (t.mRoutesv6.getNetworks included)
  mDnslist : s.mDnslist = t.mDnslist
  mDomain : s.mDomain = t.mDomain
  mMtu : s.mMtu = t.mMtu

/-! ### The parts of the text -/

namespace Service

variable (s : Service)

def ipsText : Text := s.mLocalIP.elim [] CIDRIP.toString ++ s.mLocalIPv6.getD []

def routesText (included : Bool) : Text :=
  joinNetworks s.mRoutes included ++ joinNetworks s.mRoutesv6 included

end Service

/-- What two services hold makes the same text under each keyword. -/
structure RunsTogether (s t : Service) : Prop where
  ips : s.ipsText = t.ipsText
  routes : ∀ included, s.routesText included = t.routesText included
  dns : Service.join Service.bar s.mDnslist = Service.join Service.bar t.mDnslist
  domain : s.mDomain.getD "null".toList = t.mDomain.getD "null".toList
  mtu : s.mMtu = t.mMtu

/-- The networks of two services are written alike: the bits behind the mask are written too. -/
def SpelledAlike (s t : Service) : Prop :=
  ∀ included, (s.mRoutes.getNetworks included).map IpAddress.toString =
      (t.mRoutes.getNetworks included).map IpAddress.toString ∧
    (s.mRoutesv6.getNetworks included).map IpAddress.toString =
      (t.mRoutesv6.getNetworks included).map IpAddress.toString

/-- The addresses are written without blanks. -/
structure Plain (s : Service) : Prop where
  mLocalIP : ∀ ip, s.mLocalIP = some ip → ' ' ∉ ip.mIp
  mLocalIPv6 : ∀ ip, s.mLocalIPv6 = some ip → ' ' ∉ ip
  mDnslist : ∀ dns ∈ s.mDnslist, ' ' ∉ dns

/-! ### Characters of the parts -/

/-- The characters that separate something in the text. -/
def Separates (c : Char) : Prop := c = ' ' ∨ c = '/' ∨ c = '.'

instance (c : Char) : Decidable (Separates c) := by unfold Separates; infer_instance

lemma digitChar_not_separates {k : ℕ} (hk : k < 16) : ¬ Separates k.digitChar := by
  revert k
  decide

lemma not_mem_toDigits {c : Char} (hc : Separates c) (n : ℕ) : c ∉ Nat.toDigits 16 n := by
  induction n using Nat.strong_induction_on with
  | _ n ih =>
    rw [Nat.toDigits_eq_if (by decide)]
    split_ifs with h
    · rintro hm
      rw [List.mem_singleton] at hm
      exact digitChar_not_separates h (hm ▸ hc)
    · intro hm
      rcases List.mem_append.mp hm with hm | hm
      · exact ih (n / 16) (by omega) hm
      · rw [List.mem_singleton] at hm
        exact digitChar_not_separates (Nat.mod_lt n (by decide)) (hm ▸ hc)

lemma not_mem_showInt {c : Char} (hc : Separates c) (n : ℤ) : c ∉ showInt n := by
  intro h
  rcases mem_showInt h with h | h
  · revert hc
    rw [h]
    decide
  · rcases hc with rfl | rfl | rfl <;> revert h <;> decide

lemma not_mem_ipv6Groups {c : Char} (hc : Separates c) (r : ℕ) (ipv6str : Option Text)
    (lastPart : Bool) (h : ∀ str ∈ ipv6str, c ∉ str) :
    ∀ str ∈ IpAddress.ipv6Groups r ipv6str lastPart, c ∉ str := by
  have hdigits := not_mem_toDigits hc
  have hcolon : c ≠ ':' := by rcases hc with rfl | rfl | rfl <;> decide
  fun_induction IpAddress.ipv6Groups r ipv6str lastPart with
  | case1 => exact h
  | case2 r ipv6str lastPart hr part written ih =>
    apply ih
    intro str hstr
    simp only [written, part] at hstr
    cases ipv6str with
    | none =>
      dsimp only at hstr
      split_ifs at hstr
      · exact absurd hstr (Option.not_mem_none _)
      all_goals
        obtain rfl := Option.mem_some_iff.mp hstr
        simp [hdigits, hcolon]
    | some rest =>
      dsimp only at hstr
      have := h rest rfl
      split_ifs at hstr
      all_goals
        obtain rfl := Option.mem_some_iff.mp hstr
        simp [hdigits, hcolon, this]

lemma not_mem_getIPv6Address {c : Char} (hc : Separates c) (x : IpAddress) :
    c ∉ x.getIPv6Address := by
  unfold IpAddress.getIPv6Address
  cases h : IpAddress.ipv6Groups x.netAddress.toNat none true with
  | none => rcases hc with rfl | rfl | rfl <;> decide
  | some str => exact not_mem_ipv6Groups hc _ none true (by simp) str h

lemma count_dot_showInt (n : ℤ) : (showInt n).count '.' = 0 :=
  List.count_eq_zero.mpr (not_mem_showInt (by decide) n)

/-- The address, in front of the slash. -/
def addressText (x : IpAddress) : Text :=
  if x.isV4 then x.getIPv4Address else x.getIPv6Address

lemma toString_eq (x : IpAddress) : x.toString = addressText x ++ '/' :: showInt x.networkMask := rfl

lemma not_mem_addressText {c : Char} (hc : c = ' ' ∨ c = '/') (x : IpAddress) :
    c ∉ addressText x := by
  have hs : Separates c := hc.elim .inl fun h => .inr (.inl h)
  have hdot : c ≠ '.' := by rcases hc with rfl | rfl <;> decide
  unfold addressText
  split_ifs
  · simp [IpAddress.getIPv4Address, not_mem_showInt hs, hdot]
  · exact not_mem_getIPv6Address hs x

/-- Three dots stand in an IPv4 network and none in an IPv6 network. -/
lemma count_dot_toString (x : IpAddress) : x.toString.count '.' = if x.isV4 then 3 else 0 := by
  rw [toString_eq, addressText]
  split_ifs
  · simp [IpAddress.getIPv4Address, count_dot_showInt]
  · have := List.count_eq_zero.mpr (not_mem_getIPv6Address (c := '.') (by decide) x)
    simp [count_dot_showInt, this]

lemma blank_not_mem_toString (x : IpAddress) : ' ' ∉ x.toString := by
  rw [toString_eq]
  simp [not_mem_addressText, not_mem_showInt (show Separates ' ' by decide)]

/-! ### Reading the text -/

lemma eq_of_append_cons {α : Type*} {c : α} {l₁ l₂ r₁ r₂ : List α} (h₁ : c ∉ l₁) (h₂ : c ∉ l₂)
    (h : l₁ ++ c :: r₁ = l₂ ++ c :: r₂) : l₁ = l₂ ∧ r₁ = r₂ := by
  induction l₁ generalizing l₂ with
  | nil =>
    cases l₂ with
    | nil => exact ⟨rfl, (List.cons.inj h).2⟩
    | cons x l₂ => exact absurd ((List.cons.inj h).1 ▸ List.mem_cons_self) h₂
  | cons x l₁ ih =>
    cases l₂ with
    | nil => exact absurd ((List.cons.inj h).1 ▸ List.mem_cons_self) h₁
    | cons y l₂ =>
      obtain ⟨hxy, h⟩ := List.cons.inj h
      obtain ⟨hl, hr⟩ := ih (fun hm => h₁ (List.mem_cons_of_mem _ hm))
        (fun hm => h₂ (List.mem_cons_of_mem _ hm)) h
      exact ⟨by rw [hxy, hl], hr⟩

lemma eq_of_append_cons_right {α : Type*} {c : α} {l₁ l₂ r₁ r₂ : List α} (h₁ : c ∉ r₁)
    (h₂ : c ∉ r₂) (h : l₁ ++ c :: r₁ = l₂ ++ c :: r₂) : l₁ = l₂ ∧ r₁ = r₂ := by
  have hrev := congrArg List.reverse h
  simp only [List.reverse_append, List.reverse_cons, List.append_assoc, List.singleton_append]
    at hrev
  obtain ⟨hr, hl⟩ := eq_of_append_cons (by simpa using h₁) (by simpa using h₂) hrev
  exact ⟨List.reverse_injective hl, List.reverse_injective hr⟩

lemma join_cons_cons (x y : Text) (l : List Text) : Service.join Service.bar (x :: y :: l) =
    x ++ '|' :: Service.join Service.bar (y :: l) := by
  rw [Service.join, List.intercalate_cons_cons]
  simp [Service.join, Service.bar]

lemma join_singleton (x : Text) : Service.join Service.bar [x] = x := List.intercalate_singleton

lemma not_mem_join {c : Char} (hc : c ≠ '|') {tokens : List Text} (h : ∀ t ∈ tokens, c ∉ t) :
    c ∉ Service.join Service.bar tokens := by
  induction tokens with
  | nil => simp [Service.join, Service.bar]
  | cons x tokens ih =>
    have hx := h x List.mem_cons_self
    have ih := ih fun t ht => h t (List.mem_cons_of_mem _ ht)
    cases tokens with
    | nil => rwa [join_singleton]
    | cons y l =>
      rw [join_cons_cons]
      simp [hx, hc, ih]

lemma count_dot_join {n : ℕ} {tokens : List Text} (h : ∀ t ∈ tokens, t.count '.' = n) :
    (Service.join Service.bar tokens).count '.' = n * tokens.length := by
  induction tokens with
  | nil => simp [Service.join, Service.bar]
  | cons x tokens ih =>
    have hx := h x List.mem_cons_self
    have ih := ih fun t ht => h t (List.mem_cons_of_mem _ ht)
    cases tokens with
    | nil => simp [join_singleton, hx]
    | cons y l =>
      rw [join_cons_cons, List.count_append, List.count_cons_of_ne (by decide), hx, ih]
      simp only [List.length_cons]
      ring

lemma toString_append_inj {x y : IpAddress} {r r' : Text} (hm : x.networkMask = y.networkMask)
    (h : x.toString ++ r = y.toString ++ r') : x.toString = y.toString ∧ r = r' := by
  rw [toString_eq, toString_eq, List.append_assoc, List.append_assoc, List.cons_append,
    List.cons_append, hm] at h
  obtain ⟨haddr, hrest⟩ := eq_of_append_cons (not_mem_addressText (.inr rfl) x)
    (not_mem_addressText (.inr rfl) y) h
  exact ⟨by rw [toString_eq, toString_eq, haddr, hm], List.append_cancel_left hrest⟩

/-- Networks with the same masks are read back from their text, whatever follows. -/
lemma map_toString_inj {xs ys : List IpAddress} {r r' : Text}
    (hm : List.Forall₂ (fun x y => x.networkMask = y.networkMask) xs ys)
    (h : Service.join Service.bar (xs.map IpAddress.toString) ++ r =
      Service.join Service.bar (ys.map IpAddress.toString) ++ r') :
    xs.map IpAddress.toString = ys.map IpAddress.toString ∧ r = r' := by
  induction hm with
  | nil => exact ⟨rfl, h⟩
  | @cons x y xs ys hxy hm ih =>
    cases hm with
    | nil =>
      simp only [List.map_cons, List.map_nil, join_singleton] at h ⊢
      obtain ⟨h1, h2⟩ := toString_append_inj hxy h
      exact ⟨by rw [h1], h2⟩
    | @cons x' y' xs ys hxy' hm =>
      simp only [List.map_cons, join_cons_cons, List.append_assoc, List.cons_append] at h ih ⊢
      obtain ⟨h1, h2⟩ := toString_append_inj hxy h
      obtain ⟨h3, h4⟩ := ih (List.cons.inj h2).2
      exact ⟨by rw [h1, h3], h4⟩

/-! ### The text and its parts -/

namespace Service

lemma routesText_not_mem (s : Service) (included : Bool) : ' ' ∉ s.routesText included := by
  have hblank : ∀ {v : Bool} (routes : Routes v), ' ' ∉ joinNetworks routes included := by
    intro v routes
    refine not_mem_join (by decide) fun t ht => ?_
    obtain ⟨x, -, rfl⟩ := List.mem_map.mp ht
    exact blank_not_mem_toString x
  simp [routesText, hblank]

lemma count_dot_routesText (s : Service) (included : Bool) :
    (s.routesText included).count '.' = 3 * (s.mRoutes.getNetworks included).length := by
  have hcount : ∀ {v : Bool} (routes : Routes v), (joinNetworks routes included).count '.' =
      (if v then 3 else 0) * (routes.getNetworks included).length := by
    intro v routes
    rw [joinNetworks, count_dot_join, List.length_map]
    intro t ht
    obtain ⟨x, hx, rfl⟩ := List.mem_map.mp ht
    rw [count_dot_toString, routes.family x (List.mem_of_mem_filter hx)]
  rw [routesText, List.count_append, hcount, hcount]
  simp

lemma regroup {k₀ kr kr' ke ke' kd kd' kn kn' km km' i4 i6 r4 r6 x4 x6 dns domain mtu : Text}
    (hr : kr' = kr ++ [' ']) (he : ke' = ke ++ ' ' :: kr) (hd : kd' = kd ++ [' '])
    (hn : kn' = kn ++ [' ']) (hm : km' = km ++ [' ']) :
    k₀ ++ i4 ++ i6 ++ kr' ++ r4 ++ r6 ++ ke' ++ x4 ++ x6 ++ kd' ++ dns ++ kn' ++ domain ++ km' ++
      mtu = k₀ ++ ((i4 ++ i6 ++ kr) ++ ' ' :: ((r4 ++ r6 ++ ke) ++ ' ' :: ((kr ++ (x4 ++ x6) ++ kd) ++
        ' ' :: ((dns ++ kn) ++ ' ' :: ((domain ++ km) ++ ' ' :: mtu))))) := by
  simp [hr, he, hd, hn, hm]

/-- The parts between the blanks. -/
lemma getTunConfigString_eq (s : Service) : s.getTunConfigString =
    "TUNCFG UNQIUE STRING ips:".toList ++ ((s.ipsText ++ "routes:".toList) ++
      ' ' :: ((s.routesText true ++ "excl.".toList) ++
      ' ' :: (("routes:".toList ++ s.routesText false ++ "dns:".toList) ++
      ' ' :: ((join bar s.mDnslist ++ "domain:".toList) ++
      ' ' :: ((s.mDomain.getD "null".toList ++ "mtu:".toList) ++ ' ' :: showInt s.mMtu))))) :=
  regroup (by decide) (by decide) (by decide) (by decide) (by decide)

end Service

lemma Plain.ipsText (h : Plain s) : ' ' ∉ s.ipsText := by
  have h4 : ' ' ∉ s.mLocalIP.elim [] CIDRIP.toString := by
    cases hip : s.mLocalIP with
    | none => simp
    | some ip =>
      simp [CIDRIP.toString, h.mLocalIP ip hip, not_mem_showInt (show Separates ' ' by decide)]
  have h6 : ' ' ∉ s.mLocalIPv6.getD [] := by
    cases hip : s.mLocalIPv6 with
    | none => simp
    | some ip => exact h.mLocalIPv6 ip hip
  simp [Service.ipsText, h4, h6]

/-- **What the text tells**: two services whose addresses are written without blanks write the
same text exactly if each keyword is followed by the same. -/
theorem getTunConfigString_eq_iff (hs : Plain s) (ht : Plain t) :
    s.getTunConfigString = t.getTunConfigString ↔ RunsTogether s t := by
  have hblank : ∀ {l : Text} (k : Text), ' ' ∉ l → ' ' ∉ k → ' ' ∉ l ++ k := fun k hl hk => by
    simp [hl, hk]
  have hdns : ∀ {s : Service}, Plain s → ' ' ∉ Service.join Service.bar s.mDnslist :=
    fun h => not_mem_join (by decide) h.mDnslist
  rw [Service.getTunConfigString_eq, Service.getTunConfigString_eq]
  constructor
  · intro h
    have h := List.append_cancel_left h
    obtain ⟨hips, h⟩ := eq_of_append_cons (hblank _ hs.ipsText (by decide))
      (hblank _ ht.ipsText (by decide)) h
    obtain ⟨hincl, h⟩ := eq_of_append_cons (hblank _ (s.routesText_not_mem true) (by decide))
      (hblank _ (t.routesText_not_mem true) (by decide)) h
    obtain ⟨hexcl, h⟩ := eq_of_append_cons
      (hblank _ (hblank _ (by decide) (s.routesText_not_mem false)) (by decide))
      (hblank _ (hblank _ (by decide) (t.routesText_not_mem false)) (by decide)) h
    obtain ⟨hdns, h⟩ := eq_of_append_cons (hblank _ (hdns hs) (by decide))
      (hblank _ (hdns ht) (by decide)) h
    -- the domain may hold blanks, the number behind it does not
    obtain ⟨hdomain, hmtu⟩ := eq_of_append_cons_right (not_mem_showInt (by decide) _)
      (not_mem_showInt (by decide) _) h
    refine ⟨List.append_cancel_right hips, ?_, List.append_cancel_right hdns,
      List.append_cancel_right hdomain, showInt_inj hmtu⟩
    rintro (_ | _)
    · exact List.append_cancel_left (List.append_cancel_right hexcl)
    · exact List.append_cancel_right hincl
  · rintro ⟨hips, hroutes, hdns, hdomain, hmtu⟩
    rw [hips, hroutes, hroutes, hdns, hdomain, hmtu]

/-! ### The local networks -/

lemma sublist_treeAdd (M : List IpAddress) (x : IpAddress) : M.Sublist (treeAdd M x) := by
  induction M with
  | nil => exact List.nil_sublist _
  | cons y M ih =>
    rw [treeAdd]
    split_ifs
    · exact List.sublist_cons_self _ _
    · exact List.Sublist.refl _
    · exact ih.cons_cons y

/-- Every network of the first set is one of the second. -/
def Extends (r r' : Routes v) : Prop := r.mIpAddresses.Sublist r'.mIpAddresses

lemma extends_addLocalNetwork {lan : Bool} {ip : CIDRIP} {r r' : Routes true} {i : Interface}
    (h : Service.addLocalNetwork d lan ip r i = .ok r') : Extends r r' := by
  unfold Service.addLocalNetwork at h
  split at h
  · split_ifs at h
    · cases h
      exact List.Sublist.refl _
    · obtain ⟨c, -, h⟩ := bind_eq_ok.mp h
      obtain ⟨n, -, h⟩ := bind_eq_ok.mp h
      cases h
      exact (sublist_treeAdd _ _).trans (sublist_treeAdd _ _)
    · obtain ⟨c, -, h⟩ := bind_eq_ok.mp h
      obtain ⟨n, -, h⟩ := bind_eq_ok.mp h
      cases h
      exact sublist_treeAdd _ _
    · cases h
      exact List.Sublist.refl _
  · cases h
    exact List.Sublist.refl _

lemma extends_foldlM {lan : Bool} {ip : CIDRIP} {is : List Interface} {r r' : Routes true}
    (h : is.foldlM (Service.addLocalNetwork d lan ip) r = .ok r') : Extends r r' := by
  induction is generalizing r with
  | nil =>
    cases h
    exact List.Sublist.refl _
  | cons i is ih =>
    rw [List.foldlM_cons, bind_eq_ok] at h
    obtain ⟨r₁, h1, h⟩ := h
    exact (extends_addLocalNetwork h1).trans (ih h)

lemma extends_withLocalNetworks (h : s.withLocalNetworks d = .ok l) :
    l = { s with mRoutes := l.mRoutes } ∧ Extends s.mRoutes l.mRoutes := by
  unfold Service.withLocalNetworks at h
  split at h
  · cases h
    exact ⟨rfl, List.Sublist.refl _⟩
  · unfold Service.addLocalNetworksToRoutes at h
    obtain ⟨routes, hfold, h⟩ := bind_eq_ok.mp h
    cases h
    exact ⟨rfl, extends_foldlM hfold⟩

/-- A set that extends another and has as many networks of each mark is the same. -/
lemma Extends.eq {r r' : Routes v} (h : Extends r r')
    (hlen : ∀ included, (r.getNetworks included).length = (r'.getNetworks included).length) :
    r = r' := by
  have hsplit : ∀ r : Routes v, (r.getNetworks true).length + (r.getNetworks false).length =
      r.mIpAddresses.length := by
    intro r
    rw [List.length_eq_length_filter_add (l := r.mIpAddresses) fun ip => ip.included]
    simp [Routes.getNetworks]
  have heq : r.mIpAddresses = r'.mIpAddresses := h.eq_of_length (by
    rw [← hsplit, ← hsplit, hlen, hlen])
  obtain ⟨⟨M, _⟩, _⟩ := r
  obtain ⟨⟨M', _⟩, _⟩ := r'
  obtain rfl : M = M' := heq
  rfl

/-! ### Same settings and same text -/

lemma SameNetworks.masks {xs ys : List IpAddress} (h : SameNetworks xs ys) :
    List.Forall₂ (fun x y => x.networkMask = y.networkMask) xs ys :=
  h.imp fun _ _ hxy => (of_decide_eq_true hxy).1

/-- If the same settings make the same text although one service has the local networks added,
they add no network, and the networks are written alike. -/
lemma Same.spelledAlike (h : Same s t) (hl : s.withLocalNetworks d = .ok l)
    (hr : RunsTogether l t) : l = s ∧ SpelledAlike s t := by
  obtain ⟨heq, hext⟩ := extends_withLocalNetworks hl
  have hroutes : s.mRoutes = l.mRoutes := hext.eq fun included => by
    have hdots := congrArg (List.count '.') (hr.routes included)
    rw [Service.count_dot_routesText, Service.count_dot_routesText] at hdots
    have hlen := (h.mRoutes included).length_eq
    omega
  have hls : l = s := by rw [heq, ← hroutes]
  subst hls
  refine ⟨rfl, fun included => ?_⟩
  obtain ⟨h4, h6⟩ := map_toString_inj (h.mRoutes included).masks (hr.routes included)
  obtain ⟨h6, -⟩ := map_toString_inj (h.mRoutesv6 included).masks (congrArg (· ++ ([] : Text)) h6)
  exact ⟨h4, h6⟩

lemma Same.runsTogether (h : Same s t) (hs : SpelledAlike s t) : RunsTogether s t where
  ips := by rw [Service.ipsText, Service.ipsText, h.mLocalIP, h.mLocalIPv6]
  routes included := by
    rw [Service.routesText, Service.routesText]
    unfold Service.joinNetworks
    rw [(hs included).1, (hs included).2]
  dns := by rw [h.mDnslist]
  domain := by rw [h.mDomain]
  mtu := h.mMtu

/-- The text of one service with the local networks added, and that of another without. -/
lemma same_text_iff (hs : Plain s) (ht : Plain t) (hl : s.withLocalNetworks d = .ok l) :
    (t.getTunConfigString = l.getTunConfigString ↔ Same s t) ↔
      (Same s t → s.withLocalNetworks d = .ok s ∧ SpelledAlike s t) ∧
        (RunsTogether l t → Same s t) := by
  have hpl : Plain l := by
    rw [(extends_withLocalNetworks hl).1]
    exact ⟨hs.mLocalIP, hs.mLocalIPv6, hs.mDnslist⟩
  rw [eq_comm, getTunConfigString_eq_iff hpl ht]
  constructor
  · intro h
    refine ⟨fun hsame => ?_, h.mp⟩
    obtain ⟨hls, hspell⟩ := hsame.spelledAlike hl (h.mpr hsame)
    exact ⟨by rw [hl, hls], hspell⟩
  · rintro ⟨h1, h2⟩
    refine ⟨h2, fun hsame => ?_⟩
    obtain ⟨hls, hspell⟩ := h1 hsame
    obtain rfl := Except.ok.inj (hl.symm.trans hls)
    exact hsame.runsTogether hspell

/-! ### Two cycles -/

namespace Service

lemma getTunReopenStatus_eq_noAction :
    s.getTunReopenStatus d = "NOACTION".toList ↔ some s.getTunConfigString = s.mLastTunCfg := by
  unfold getTunReopenStatus
  split_ifs with h1 h2
  · exact iff_of_true rfl h1
  · exact iff_of_false (by decide) h1
  · exact iff_of_false (by decide) h1

end Service

/-- **A device was opened**: the text is that of the settings and the local networks, and no
setting is left. -/
lemma openTun_returned {o : Service.Opened} (h : t.openTun d = .ok (u, o))
    (hr : o.returned = true) : u.Unset ∧ t.mLocalIP ≠ none ∧ ∃ l, t.withLocalNetworks d = .ok l ∧
      u.mLastTunCfg = some l.getTunConfigString := by
  obtain ⟨routes, hl⟩ := withLocalNetworks_ok d t
  unfold Service.openTun at h
  split_ifs at h with hnone
  · cases h
    cases hr
  · simp only [bind_eq_ok, hl, Except.ok.injEq, exists_eq_left'] at h
    obtain ⟨ob, -, h⟩ := h
    cases ob with
    | none =>
      cases h
      cases hr
    | some b =>
      have hip := (finishTun_eq_ok h).2.1
      unfold Service.finishTun at h
      simp only [bind_eq_ok] at h
      obtain ⟨b', -, ip, -, ⟨q, b''⟩, -, h⟩ := h
      cases h
      exact ⟨⟨rfl, rfl, rfl, rfl, rfl, rfl⟩, hip, _, hl, rfl⟩

/-- The MTU is set with the IPv4 address. -/
def Setting.mtu : Setting → Option ℤ
  | .setLocalIP _ _ mtu _ => some mtu
  | _ => none

lemma push_mMtu {x : Setting} (h : s.push d x = .ok t) : t.mLastTunCfg = s.mLastTunCfg ∧
    t.mMtu = x.mtu.getD s.mMtu ∧ (x.mtu = none → t.mLocalIP = s.mLocalIP) := by
  cases x with
  | setLocalIP loc netmask mtu mode =>
    simp only [Service.push, Service.setLocalIP, bind_eq_ok] at h
    obtain ⟨ip, -, len, -, routes, -, h⟩ := h
    cases h
    exact ⟨rfl, rfl, fun hn => by cases hn⟩
  | setLocalIPv6 ipv6addr =>
    cases h
    exact ⟨rfl, rfl, fun _ => rfl⟩
  | addRoute dest mask gateway device =>
    simp only [Service.push, Service.addRoute, bind_eq_ok] at h
    obtain ⟨route, -, gatewayIP, -, h⟩ := h
    cases hip : s.mLocalIP with
    | none =>
      rw [hip] at h
      cases h
      exact ⟨rfl, rfl, fun _ => hip⟩
    | some ip =>
      simp only [hip, bind_eq_ok] at h
      obtain ⟨localNet, -, ⟨route', changed⟩, -, routes, -, h⟩ := h
      cases h
      exact ⟨rfl, rfl, fun _ => rfl⟩
  | addRoutev6 network device =>
    simp only [Service.push, Service.addRoutev6, bind_eq_ok] at h
    obtain ⟨host, -, h⟩ := h
    cases hname : d.getAllByName host with
    | none =>
      rw [hname] at h
      cases h
      exact ⟨rfl, rfl, fun _ => rfl⟩
    | some address =>
      cases address with
      | inet4 => simp [hname] at h
      | inet6 ip =>
        simp only [hname, bind_eq_ok] at h
        obtain ⟨part, -, mask, -, h⟩ := h
        cases h
        exact ⟨rfl, rfl, fun _ => rfl⟩
  | addDNS dns =>
    cases h
    exact ⟨rfl, rfl, fun _ => rfl⟩
  | setDomain domain =>
    cases h
    unfold Service.setDomain
    split <;> exact ⟨rfl, rfl, fun _ => rfl⟩

lemma pushAll_mLastTunCfg (h : s.pushAll d settings = .ok t) : t.mLastTunCfg = s.mLastTunCfg := by
  unfold Service.pushAll at h
  induction settings generalizing s with
  | nil =>
    cases h
    rfl
  | cons x settings ih =>
    rw [List.foldlM_cons, bind_eq_ok] at h
    obtain ⟨s', hx, h⟩ := h
    exact (ih h).trans (push_mMtu hx).1

/-- Once there is an IPv4 address, the MTU is that of the cycle. -/
lemma pushAll_mMtu {a b : Service} (hs : s.pushAll d settings = .ok t)
    (ha : a.pushAll d settings = .ok b) (h : s.mLocalIP ≠ none → s.mMtu = a.mMtu)
    (hip : t.mLocalIP ≠ none) : t.mMtu = b.mMtu := by
  unfold Service.pushAll at hs ha
  induction settings generalizing s a with
  | nil =>
    cases hs
    cases ha
    exact h hip
  | cons x settings ih =>
    rw [List.foldlM_cons, bind_eq_ok] at hs ha
    obtain ⟨s', hsx, hs⟩ := hs
    obtain ⟨a', hax, ha⟩ := ha
    obtain ⟨-, hms, hips⟩ := push_mMtu hsx
    obtain ⟨-, hma, -⟩ := push_mMtu hax
    refine ih hs ha fun hip' => ?_
    cases hx : x.mtu with
    | none =>
      rw [hms, hma, hx]
      exact h (by rwa [← hips hx])
    | some mtu => rw [hms, hma, hx, Option.getD_some, Option.getD_some]

/-- What is stored at the end of a cycle that began with nothing stored is what the cycle set. -/
lemma Same.iff_of_agree {c₁ c₂ t₁ t₂ : Service} (h₁ : Agree t₁ c₁) (h₂ : Agree t₂ c₂)
    (hip : t₁.mLocalIP ≠ none) (hm₁ : t₁.mMtu = c₁.mMtu)
    (hm₂ : t₂.mLocalIP ≠ none → t₂.mMtu = c₂.mMtu) : Same c₁ c₂ ↔ Same t₁ t₂ := by
  constructor
  · rintro ⟨hip4, hip6, hr4, hr6, hdns, hdomain, hmtu⟩
    rw [← h₁.mLocalIP, ← h₂.mLocalIP] at hip4
    rw [← h₁.mRoutes, ← h₂.mRoutes] at hr4
    rw [← h₁.mRoutesv6, ← h₂.mRoutesv6] at hr6
    exact ⟨hip4, by rw [h₁.mLocalIPv6, h₂.mLocalIPv6, hip6], hr4, hr6,
      by rw [h₁.mDnslist, h₂.mDnslist, hdns], by rw [h₁.mDomain, h₂.mDomain, hdomain],
      by rw [hm₁, hm₂ (hip4 ▸ hip), hmtu]⟩
  · rintro ⟨hip4, hip6, hr4, hr6, hdns, hdomain, hmtu⟩
    have hm₂ := hm₂ (hip4 ▸ hip)
    rw [h₁.mLocalIP, h₂.mLocalIP] at hip4
    rw [h₁.mRoutes, h₂.mRoutes] at hr4
    rw [h₁.mRoutesv6, h₂.mRoutesv6] at hr6
    exact ⟨hip4, by rw [← h₁.mLocalIPv6, ← h₂.mLocalIPv6, hip6], hr4, hr6,
      by rw [← h₁.mDnslist, ← h₂.mDnslist, hdns], by rw [← h₁.mDomain, ← h₂.mDomain, hdomain],
      by rw [← hm₁, ← hm₂, hmtu]⟩

lemma Same.refl (s : Service) : Same s s := by
  have hnetworks : ∀ l : List IpAddress, SameNetworks l l := fun l =>
    List.forall₂_same.mpr fun _ _ => decide_eq_true ⟨rfl, rfl⟩
  exact ⟨rfl, rfl, fun _ => hnetworks _, fun _ => hnetworks _, rfl, rfl, rfl⟩

lemma stored_plain (mLastTunCfg : Option Text) : Plain (stored ["10.8.0.1"] mLastTunCfg) where
  mLocalIP ip h := by
    obtain rfl := Option.some.inj h
    decide
  mLocalIPv6 ip h := by cases h
  mDnslist dns h := by
    obtain rfl := List.mem_singleton.mp h
    decide

def wlan : Interface := ⟨some "wlan0".toList, some "192.168.1.5".toList, some "255.255.255.0".toList⟩

lemma ofMask_wlan : ofMask "192.168.1.5".toList "255.255.255.0".toList =
    .ok ⟨"192.168.1.5".toList, 24⟩ := by decide +kernel

lemma getInt_wlan : getInt "192.168.1.5".toList = .ok 3232235781 := by decide

lemma wlan_readable : wlan.Readable := by
  rintro ipAddr netMask hip hmask
  cases hip
  cases hmask
  exact ⟨⟨_, ofMask_wlan⟩, _, getInt_wlan⟩

/-- A phone in a wireless network. -/
def lanPhone : Device :=
  { anyPhone with
    getIfconfig := [wlan]
    readable := by simpa using wlan_readable }

def lanProfile : VpnProfile := { anyProfile with mAllowLocalLAN := true }

def lanStored (mLastTunCfg : Option Text) : Service :=
  { stored ["10.8.0.1"] mLastTunCfg with mProfile := lanProfile }

/-- The routes once the local network is among them. -/
def lanRoutes : Routes true := Routes.empty.add ⟨3232235781, 24, false, true⟩ rfl

lemma addIP_of_ok {r : Routes true} {c : CIDRIP} {n : ℤ} {included : Bool}
    (h : getInt c.mIp = .ok n) : r.addIP c included = .ok (r.add ⟨n, c.len, included, true⟩ rfl) := by
  unfold Routes.addIP
  rw [h]
  rfl

lemma addLocalNetwork_wlan (mLocalIP : CIDRIP) (h : "192.168.1.5".toList ≠ mLocalIP.mIp) :
    Service.addLocalNetwork lanPhone true mLocalIP .empty wlan = .ok lanRoutes := by
  have hintf : ¬ ("wlan0".toList = "lo".toList ∨ startsWith "wlan0".toList "tun".toList = true ∨
      startsWith "wlan0".toList "rmnet".toList = true ∨ "192.168.1.5".toList = mLocalIP.mIp) := by
    rintro (h' | h' | h' | h')
    · exact absurd h' (by decide)
    · exact absurd h' (by decide)
    · exact absurd h' (by decide)
    · exact h h'
  unfold Service.addLocalNetwork
  simp only [wlan, if_neg hintf]
  rw [if_neg (by decide), if_pos (by decide), ofMask_wlan]
  exact bind_eq_ok.mpr ⟨_, rfl, addIP_of_ok getInt_wlan⟩

lemma lanStored_local (mLastTunCfg : Option Text) :
    (lanStored mLastTunCfg).withLocalNetworks lanPhone =
      .ok { lanStored mLastTunCfg with mRoutes := lanRoutes } := by
  have h := addLocalNetwork_wlan ⟨"10.8.0.6".toList, 24⟩ (by decide)
  exact bind_eq_ok.mpr ⟨lanRoutes, bind_eq_ok.mpr ⟨lanRoutes, h, rfl⟩, rfl⟩

lemma Agree.symm (h : Agree s t) : Agree t s :=
  ⟨h.mProfile.symm, h.mDnslist.symm, h.mRoutes.symm, h.mRoutesv6.symm, h.mLocalIP.symm,
    h.mLocalIPv6.symm, h.mDomain.symm, fun hip => (h.mRemoteGW (h.mLocalIP ▸ hip)).symm⟩

lemma lanStored_opens (mLastTunCfg : Option Text) : Opens lanPhone (lanStored mLastTunCfg) :=
  ⟨(stored_opens ["10.8.0.1"] none).ip, (stored_opens ["10.8.0.1"] none).ip6,
    (stored_opens ["10.8.0.1"] none).mtu, fun h => absurd h (by decide)⟩

end BuludTechVPN.Tun
