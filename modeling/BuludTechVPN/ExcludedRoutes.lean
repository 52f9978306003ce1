import BuludTechVPN.RoutesSurvive
import Mathlib.Data.List.Infix

/-!
Routes past the tunnel beside a default route: which of them the file of a converted profile has.

They are stored whatever the lines for a default route say, and written only where there is none.
-/

namespace BuludTechVPN.FileReading

open JavaLang LineParser ParseConfig VpnProfile ConvertProfile ImportChecks Stages

variable {fails : Prop} {orders : ℕ → KeyOrder Text} {pf : Platform} {p : ConfigParser}
variable {s : Import} {np : VpnProfile} {l : List Text} {lines : List (List Text)}
variable {text t : Text}

/-- The routes past the tunnel. -/
def excludedLines (o : Lines) : List (List Text) := (o "route".toList).filter fun l => isExcluded l

/-- There are no such routes, or the default route leaves IPv4 out. -/
def KeepsExcluded (o : Lines) : Prop := excludedLines o = [] ∨ "!ipv4".toList ∈ redirectWords o

/-- A route past the tunnel as the file has it. -/
def excludedText (l : List Text) : Text :=
  "route ".toList ++ netmaskText l ++ " net_gateway\n".toList

/-- The file is written and read, and the routes past the tunnel are among its routes. -/
def ExcludedSurvive (pf : Platform) (s : Import) (o : Lines) : Prop :=
  ∃ t q, s.np.getConfigFile pf = .ok t ∧ parseConfig t = .ok q ∧
    ∀ l ∈ excludedLines o, keptRoute netGateway l ∈ q.options.get "route".toList

/-! ### The text of the file -/

/-- The routes past the tunnel are gathered in their order, whatever the others are. -/
lemma foldlM_addRoute_excluded {acc r : Text × Text}
    (hl : ∀ l ∈ lines, isExcluded l = true → IsRoute l) (h : lines.foldlM addRoute acc = .ok r) :
    r.2 = acc.2 ++ (lines.filter fun l => isExcluded l).flatMap fun l => routeText l ++ [' '] := by
  induction lines generalizing acc with
  | nil =>
    cases h
    simp
  | cons l lines ih =>
    rw [List.forall_mem_cons] at hl
    rw [List.foldlM_cons] at h
    obtain ⟨acc', hacc, h⟩ := bind_eq_ok.1 h
    rw [ih hl.2 h]
    cases he : isExcluded l with
    | true =>
      rw [(hl.1 he).addRoute, if_pos he] at hacc
      cases hacc
      simp [he]
    | false =>
      obtain ⟨net, -, hacc⟩ := bind_eq_ok.1 hacc
      obtain ⟨cidr, -, hacc⟩ := bind_eq_ok.1 hacc
      have hgateway : routeGateway l ≠ "net_gateway".toList := fun hg => by
        rw [isExcluded_iff.2 hg] at he
        cases he
      rw [if_neg hgateway] at hacc
      cases hacc
      simp [he]

/-- **What is stored of the routes past the tunnel** is what they are written from. -/
lemma getCustomRoutes_excluded (hs : convertProfile orders p = .ok s)
    (hl : ∀ l ∈ excludedLines p.options.get, IsRoute l) :
    getCustomRoutes s.np.mExcludedRoutes = (excludedLines p.options.get).map netmaskText := by
  obtain ⟨s₁, s₂, hview, -, hnone, hroute, -, hexcluded, -⟩ := routes_of_convert hs
  obtain ⟨-, hc⟩ := does_route s₁ s₂ hroute
  change (if view s₁ "route".toList = [] then _ else _) at hc
  rw [hexcluded, excludedLines, ← hview]
  split_ifs at hc with hnil
  · rw [hc, hnone, hnil]
    exact (by decide : getCustomRoutes none = [])
  · obtain ⟨r, hr, hc⟩ := hc
    have hmem : ∀ l ∈ view s₁ "route".toList, isExcluded l = true → IsRoute l := fun l hm he =>
      hl l (List.mem_filter.2 ⟨hview ▸ hm, he⟩)
    rw [hc, foldlM_addRoute_excluded hmem hr]
    exact getCustomRoutes_flatMap fun l hm =>
      hmem l (List.mem_filter.1 hm).1 (List.mem_filter.1 hm).2

/-- The lines of the routes are in the file. -/
lemma infix_of_mem_routeLines (ht : np.getConfigFile pf = .ok t) {line : Text}
    (hline : line ∈ np.routeLines) : line <:+: t := by
  unfold getConfigFile at ht
  rw [map_eq_pure_bind] at ht
  obtain ⟨pieces, hpieces, ht⟩ := bind_eq_ok.1 ht
  cases ht
  obtain ⟨authentication, -, hpieces⟩ := bind_eq_ok.1 hpieces
  obtain ⟨peer, -, hpieces⟩ := bind_eq_ok.1 hpieces
  cases hpieces
  apply List.infix_of_mem_flatten
  simp only [List.mem_append]
  simp [hline]

/-- **Without a default route** the lines of the routes have those past the tunnel. -/
lemma excludedText_mem (hs : convertProfile orders p = .ok s)
    (hl : ∀ l ∈ excludedLines p.options.get, IsRoute l) (hk : KeepsExcluded p.options.get) :
    ∀ l ∈ excludedLines p.options.get, excludedText l ∈ s.np.routeLines := by
  intro l hm
  have hw : "!ipv4".toList ∈ redirectWords p.options.get :=
    hk.resolve_left (List.ne_nil_of_mem hm)
  obtain ⟨-, -, -, -, -, -, -, -, hd⟩ := routes_of_convert hs
  have hdefault : ¬ s.np.mUseDefaultRoute = true := fun h => (hd.1 h).2 hw
  have hmem : excludedText l ∈ (getCustomRoutes s.np.mExcludedRoutes).map
      (fun route => "route ".toList ++ route ++ " net_gateway\n".toList) := by
    rw [getCustomRoutes_excluded hs hl, List.map_map]
    exact List.mem_map.2 ⟨l, hm, rfl⟩
  unfold routeLines
  rw [if_neg hdefault]
  exact List.mem_append_left _ (List.mem_append_right _ (List.mem_append_right _ hmem))

/-- **Beside a default route** no line is a route past the tunnel. -/
lemma excludedText_not_mem (hd : np.mUseDefaultRoute = true) : excludedText l ∉ np.routeLines := by
  have hblank : (excludedText l)[5]? = some ' ' := rfl
  have hend : " net_gateway\n".toList <:+ excludedText l := List.suffix_append _ _
  unfold routeLines
  rw [if_pos hd]
  simp only [List.mem_append, mem_piece, List.mem_singleton]
  rintro (((⟨-, h⟩ | ⟨-, h⟩) | h) | h)
  · rw [h] at hblank
    exact absurd hblank (by decide)
  · rw [h] at hblank
    exact absurd hblank (by decide)
  · rw [h] at hend
    exact absurd hend (by decide)
  · split_ifs at h
    · cases h
    · obtain ⟨route, -, h⟩ := List.mem_map.1 h
      have hdash : ("route-ipv6 ".toList ++ route ++ ['\n'])[5]? = some '-' := rfl
      rw [h, hblank] at hdash
      exact absurd hdash (by decide)

/-- **The lines of the routes** have those past the tunnel exactly if these are kept. -/
lemma excludedText_mem_iff (hs : convertProfile orders p = .ok s)
    (hr : p.options.get "redirect-gateway".toList ≠ [])
    (hl : ∀ l ∈ excludedLines p.options.get, IsRoute l) :
    (∀ l ∈ excludedLines p.options.get, excludedText l ∈ s.np.routeLines) ↔
      KeepsExcluded p.options.get := by
  refine ⟨fun h => ?_, excludedText_mem hs hl⟩
  obtain ⟨-, -, -, -, -, -, -, -, hd⟩ := routes_of_convert hs
  by_contra hk
  obtain ⟨hsome, hw⟩ := not_or.1 hk
  obtain ⟨l, hm⟩ := List.exists_mem_of_ne_nil _ hsome
  exact excludedText_not_mem (hd.2 ⟨hr, hw⟩) (h l hm)

/-! ### The routes of the file -/

/-- The route for everything. -/
def defaultLine : List Text :=
  ["route".toList, "0.0.0.0".toList, "0.0.0.0".toList, vpnGateway]

lemma says_defaultLine (hd : np.mUseDefaultRoute = true) :
    Says fails "route".toList [defaultLine] (ipv4RouteLines np).flatten := by
  have hname : IsName "route".toList := by decide
  have hscan : scan (between ["route".toList])
      ("0.0.0.0 0.0.0.0 vpn_gateway".toList ++ ['\x00']) = .ok defaultLine := by decide
  have hread : Says fails "route".toList _ _ :=
    says_args hname.opens (by decide : IsLine "0.0.0.0 0.0.0.0 vpn_gateway".toList) hscan
  rw [if_pos (by decide)] at hread
  unfold ipv4RouteLines
  rw [if_pos hd]
  exact hread

lemma read_default (hp : parseConfig text = .ok p) (h : WritesBack False pf p.options.get)
    (hs : convertProfile orders p = .ok s) (hd : Redirects p.options.get) :
    ∃ t q, s.np.getConfigFile pf = .ok t ∧ parseConfig t = .ok q ∧
      q.options.get "route".toList = [defaultLine] := by
  obtain ⟨-, -, -, -, -, -, -, -, hdefault⟩ := routes_of_convert hs
  obtain ⟨t, ht, hunmarked, hfile⟩ := says_written hp h hs (says_defaultLine (hdefault.2 hd))
  obtain ⟨q, hq, hget⟩ := hfile.parseConfig hunmarked
  exact ⟨t, q, ht, hq, hget⟩

lemma read_kept (hp : parseConfig text = .ok p) (h : WritesBack False pf p.options.get)
    (hs : convertProfile orders p = .ok s) (hl : ∀ l ∈ p.options.get "route".toList, IsRoute l)
    (hd : ¬ Redirects p.options.get) :
    ∃ t q, s.np.getConfigFile pf = .ok t ∧ parseConfig t = .ok q ∧
      q.options.get "route".toList = keptRoutes (p.options.get "route".toList) := by
  obtain ⟨s₁, s₂, hview, h1, h2, hroute, hcustom, hexcluded, hdefault⟩ := routes_of_convert hs
  obtain ⟨hvpn, hnet⟩ := getCustomRoutes_route hroute (hview.symm ▸ hl) h1 h2
  rw [hview] at hvpn hnet
  have hsays : Says False "route".toList (keptRoutes (p.options.get "route".toList))
      (ipv4RouteLines s.np).flatten :=
    says_keptRoutes hl (Bool.eq_false_iff.2 fun h => hd (hdefault.1 h))
      (by rw [hcustom]; exact hvpn) (by rw [hexcluded]; exact hnet)
  obtain ⟨t, ht, hunmarked, hfile⟩ := says_written hp h hs hsays
  obtain ⟨q, hq, hget⟩ := hfile.parseConfig hunmarked
  exact ⟨t, q, ht, hq, hget⟩

/-- **The routes of the file** have those past the tunnel exactly if these are kept. -/
lemma excludedSurvive_iff (hp : parseConfig text = .ok p) (h : WritesBack False pf p.options.get)
    (hs : convertProfile orders p = .ok s) (hr : p.options.get "redirect-gateway".toList ≠ [])
    (hl : ∀ l ∈ p.options.get "route".toList, IsRoute l) :
    ExcludedSurvive pf s p.options.get ↔ KeepsExcluded p.options.get := by
  by_cases hd : Redirects p.options.get
  · obtain ⟨t, q, ht, hq, hget⟩ := read_default hp h hs hd
    constructor
    · rintro ⟨t', q', ht', hq', hall⟩
      obtain rfl := Except.ok.inj (ht.symm.trans ht')
      obtain rfl := Except.ok.inj (hq.symm.trans hq')
      refine .inl (List.eq_nil_iff_forall_not_mem.2 fun l hm => ?_)
      have hroute := hall l hm
      rw [hget, List.mem_singleton] at hroute
      have hgateway : netGateway = vpnGateway := congrArg (fun r => r.getD 3 []) hroute
      exact absurd hgateway (by decide)
    · rintro (hnil | hw)
      · exact ⟨t, q, ht, hq, by simp [hnil]⟩
      · exact absurd hw hd.2
  · have hw : "!ipv4".toList ∈ redirectWords p.options.get := by
      by_contra hw
      exact hd ⟨hr, hw⟩
    obtain ⟨t, q, ht, hq, hget⟩ := read_kept hp h hs hl hd
    refine iff_of_true ⟨t, q, ht, hq, fun l hm => ?_⟩ (.inr hw)
    rw [hget]
    exact List.mem_append_right _ (List.mem_map.2 ⟨l, hm, rfl⟩)

/-- **When routes past the tunnel survive a default route**: exactly where no IPv4 traffic is
redirected, in the lines of the routes and so in the file; and, where all values are read back as
they are written, in what is read of the file. -/
theorem excluded_survive (hp : parseConfig text = .ok p) (hs : convertProfile orders p = .ok s)
    (hr : p.options.get "redirect-gateway".toList ≠ [])
    (hl : ∀ l ∈ excludedLines p.options.get, IsRoute l) :
    ((∀ l ∈ excludedLines p.options.get, excludedText l ∈ s.np.routeLines) ↔
      KeepsExcluded p.options.get) ∧
    (KeepsExcluded p.options.get → ∀ pf t, s.np.getConfigFile pf = .ok t →
      ∀ l ∈ excludedLines p.options.get, excludedText l <:+: t) ∧
    ∀ pf, WritesBack False pf p.options.get → (∀ l ∈ p.options.get "route".toList, IsRoute l) →
      (ExcludedSurvive pf s p.options.get ↔ KeepsExcluded p.options.get) :=
  ⟨excludedText_mem_iff hs hr hl,
    fun hk _ _ ht l hm => infix_of_mem_routeLines ht (excludedText_mem hs hl hk l hm),
    fun _ h hall => excludedSurvive_iff hp h hs hr hall⟩

/-! ### Two configurations -/

def homeRoute : List Text :=
  ["route".toList, "192.168.1.0".toList, "255.255.255.0".toList, netGateway]

/-- A configuration with a default route and a route past the tunnel. -/
def redirected (words : List Text) : ConfigParser where
  options := [entry "remote".toList ["vpn.example.com".toList],
    entry "redirect-gateway".toList words, (homeRoute.headD [], homeRoute)]
  metaOptions := []

def redirectedText (words : String) : Text :=
  ("remote vpn.example.com\nredirect-gateway " ++ words ++
    "\nroute 192.168.1.0 255.255.255.0 net_gateway\n").toList

lemma homeRoute_isRoute : IsRoute homeRoute :=
  .gateway ⟨by decide, by decide⟩ ⟨24, by decide, by decide⟩ (.inr rfl)

/-- Without a default route for IPv4. -/
theorem excluded_survive_ipv6 : ∃ s,
    convertProfile (fun _ => .asKept _) (redirected ["ipv6".toList, "!ipv4".toList]) = .ok s ∧
    let o : Lines := (redirected ["ipv6".toList, "!ipv4".toList]).options.get
    ((∀ l ∈ excludedLines o, excludedText l ∈ s.np.routeLines) ↔ KeepsExcluded o) ∧
    (KeepsExcluded o → ∀ pf t, s.np.getConfigFile pf = .ok t →
      ∀ l ∈ excludedLines o, excludedText l <:+: t) ∧
    ∀ pf, WritesBack False pf o → (∀ l ∈ o "route".toList, IsRoute l) →
      (ExcludedSurvive pf s o ↔ KeepsExcluded o) := by
  have hok : (convertProfile (fun _ => .asKept _)
      (redirected ["ipv6".toList, "!ipv4".toList])).isOk = true := by decide +kernel
  have hp : parseConfig (redirectedText "ipv6 !ipv4") =
      .ok (redirected ["ipv6".toList, "!ipv4".toList]) := by decide +kernel
  have hlines : excludedLines (redirected ["ipv6".toList, "!ipv4".toList]).options.get =
      [homeRoute] := by decide
  cases hs : convertProfile (fun _ => .asKept _) (redirected ["ipv6".toList, "!ipv4".toList]) with
  | error e =>
    rw [hs] at hok
    cases hok
  | ok s =>
    refine ⟨s, rfl, excluded_survive hp hs (by decide) ?_⟩
    rw [hlines]
    simpa using homeRoute_isRoute

lemma redirected_routes :
    (do
      let s ← convertProfile (fun _ => .asKept _) (redirected ["def1".toList])
      let t ← s.np.getConfigFile ovpn3Device
      let q ← parseConfig t
      pure (decide (excludedText homeRoute <:+: t), q.options.get "route".toList)) =
      .ok (false, [defaultLine]) := by
  decide +kernel

/-- The route past the tunnel is not in the file, which has the default route only. -/
theorem excluded_lost :
    parseConfig (redirectedText "def1") = .ok (redirected ["def1".toList]) ∧
    ∃ s t q, convertProfile (fun _ => .asKept _) (redirected ["def1".toList]) = .ok s ∧
      s.np.getConfigFile ovpn3Device = .ok t ∧ parseConfig t = .ok q ∧
      excludedLines (redirected ["def1".toList]).options.get = [homeRoute] ∧
      ¬ excludedText homeRoute <:+: t ∧ q.options.get "route".toList = [defaultLine] ∧
      ¬ ExcludedSurvive ovpn3Device s (redirected ["def1".toList]).options.get := by
  have hlines : excludedLines (redirected ["def1".toList]).options.get = [homeRoute] := by decide
  obtain ⟨s, hs, hrun⟩ := bind_eq_ok.1 redirected_routes
  obtain ⟨t, ht, hrun⟩ := bind_eq_ok.1 hrun
  obtain ⟨q, hq, hrun⟩ := bind_eq_ok.1 hrun
  have hpair : (decide (excludedText homeRoute <:+: t), q.options.get "route".toList) =
      (false, [defaultLine]) := Except.ok.inj hrun
  obtain ⟨htext, hget⟩ := Prod.mk.inj hpair
  refine ⟨by decide +kernel, s, t, q, hs, ht, hq, hlines, of_decide_eq_false htext, hget, ?_⟩
  rintro ⟨t', q', ht', hq', hall⟩
  obtain rfl := Except.ok.inj (ht.symm.trans ht')
  obtain rfl := Except.ok.inj (hq.symm.trans hq')
  have hroute := hall homeRoute (hlines ▸ List.mem_singleton_self _)
  rw [hget] at hroute
  exact absurd hroute (by decide)

end BuludTechVPN.FileReading
