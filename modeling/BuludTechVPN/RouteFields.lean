import BuludTechVPN.ConvertedProfile

/-!
What the conversion stores of IPv4 routes: the lists of the routes and the mark of the default
route are each the work of one stage, and the other stages leave them as they are.
-/

namespace BuludTechVPN.FileReading

open JavaLang LineParser ParseConfig VpnProfile ConvertProfile ImportChecks Stages

variable {orders : ℕ → KeyOrder Text} {p : ConfigParser}
variable {s s' : Import} {f : Stage} {k : Text}

/-! ### Stages that leave the routes as they are -/

/-- What the profile has of IPv4 routes. -/
def routeFields (np : VpnProfile) : Bool × Option Text × Option Text :=
  (np.mUseDefaultRoute, np.mCustomRoutes, np.mExcludedRoutes)

def Leaves (f : Stage) : Prop := ∀ s s', f s = .ok s' → routeFields s'.np = routeFields s.np

lemma leaves_of_does {e : Effect} (h : Does f e)
    (hc : ∀ o np np', e.changes o np np' → routeFields np' = routeFields np) : Leaves f :=
  fun s s' hs => hc _ _ _ (h s s' hs).2

lemma leaves_last {option : Text} {changes : List Text → VpnProfile → VpnProfile → Prop}
    (h : Does f (lastEffect option changes))
    (hc : ∀ l np np', changes l np np' → routeFields np' = routeFields np) : Leaves f :=
  leaves_of_does h fun o np np' hch => by
    cases hl : (o option).getLast? with
    | none =>
      simp only [lastEffect, hl] at hch
      rw [hch]
    | some l =>
      simp only [lastEffect, hl] at hch
      exact hc l np np' hch

lemma leaves_all {option : Text} {changes : List (List Text) → VpnProfile → VpnProfile → Prop}
    (h : Does f (allEffect option changes))
    (hc : ∀ lines np np', changes lines np np' → routeFields np' = routeFields np) : Leaves f :=
  leaves_of_does h fun o np np' hch => by
    change (if o option = [] then _ else _) at hch
    split_ifs at hch
    · rw [hch]
    · exact hc _ np np' hch

lemma leaves_flag {option : Text} {minarg maxarg : ℕ} {set : VpnProfile → VpnProfile}
    (hc : ∀ np, routeFields (set np) = routeFields np) : Leaves (onFlag option minarg maxarg set) :=
  leaves_last does_onFlag fun _ np _ hch => hch ▸ hc np

lemma leaves_argument {option : Text} {set : VpnProfile → Text → VpnProfile}
    (hc : ∀ np arg, routeFields (set np arg) = routeFields np) : Leaves (onArgument option set) :=
  leaves_last does_onArgument fun _ np _ hch => hch ▸ hc np _

lemma leaves_client : Leaves client :=
  leaves_of_does does_client fun o np np' hch => by
    obtain rfl : np' = _ := hch
    split_ifs <;> rfl

lemma leaves_secret : Leaves secret :=
  leaves_last does_secret fun _ _ _ hch => hch ▸ rfl

lemma leaves_tlsAuth : Leaves tlsAuth :=
  leaves_all does_tlsAuth fun lines np np' hch => by
    refine foldlM_keeps (P := fun r => routeFields r = routeFields np) ?_ rfl hch
    intro r l _ r' hr h
    obtain ⟨file, -, h⟩ := bind_eq_ok.1 h
    split_ifs at h
    · cases h
      exact hr
    · cases h
      exact hr

lemma leaves_dev : Leaves dev := leaves_of_does does_dev fun _ _ _ hch => hch ▸ rfl

lemma leaves_mssfix : Leaves mssfix :=
  leaves_last does_mssfix fun _ _ _ hch => by
    obtain ⟨n, rfl⟩ := hch
    rfl

lemma leaves_mtu : Leaves mtu :=
  leaves_last does_mtu fun _ _ _ hch => by
    obtain ⟨n, rfl⟩ := hch
    rfl

lemma leaves_ifconfig : Leaves ifconfig :=
  leaves_last does_ifconfig fun _ _ _ hch => by
    obtain ⟨c, -, rfl⟩ := hch
    rfl

lemma leaves_dhcpOption : Leaves dhcpOption :=
  leaves_all does_dhcpOption fun lines np np' hch => by
    refine foldlM_keeps (P := fun r => routeFields r = routeFields np) ?_ rfl hch
    intro r l _ r' hr h
    obtain ⟨type, -, h⟩ := bind_eq_ok.1 h
    obtain ⟨arg, -, h⟩ := bind_eq_ok.1 h
    cases h
    split_ifs <;> exact hr

lemma leaves_tlsRemote : Leaves tlsRemote :=
  leaves_of_does does_tlsRemote fun o np np' hch => by
    cases hl : (o "tls-remote".toList).getLast? with
    | none =>
      simp only [tlsRemoteEffect, hl] at hch
      rw [hch]
    | some l =>
      simp only [tlsRemoteEffect, hl] at hch
      rw [hch]
      rfl

lemma leaves_verifyX509Name : Leaves verifyX509Name :=
  leaves_last does_verifyX509Name fun _ _ _ hch => by
    obtain ⟨t, -, rfl⟩ := hch
    rfl

lemma leaves_remoteCertTls : Leaves remoteCertTls := fun s s' h => by
  rw [remoteCertTls_ok h]
  unfold remoteCertTlsOf
  cases view s "remote-cert-tls".toList with
  | nil => rfl
  | cons l lines =>
    dsimp only
    split_ifs <;> rfl

lemma leaves_authUserPass : Leaves authUserPass :=
  leaves_last does_authUserPass fun l np _ hch => by
    obtain ⟨type, rfl⟩ := hch
    cases l[1]? with
    | none => rfl
    | some file =>
      dsimp only
      unfold useEmbbedUserAuth
      split <;> rfl

lemma leaves_authRetry : Leaves authRetry :=
  leaves_last does_authRetry fun _ _ _ hch => by
    obtain ⟨r, rfl⟩ := hch
    rfl

lemma leaves_crlVerify : Leaves crlVerify :=
  leaves_last does_crlVerify fun _ _ _ hch => by
    rw [hch.2]
    split_ifs <;> rfl

lemma leaves_connections : Leaves (connections orders) := fun s s' h => by
  obtain ⟨conns, -, h⟩ := bind_eq_ok.1 h
  obtain ⟨blocks, -, h⟩ := bind_eq_ok.1 h
  obtain ⟨cs, -, h⟩ := bind_eq_ok.1 h
  cases h
  rfl

lemma leaves_protoForce : Leaves protoForce :=
  leaves_last does_protoForce fun _ _ _ hch => by
    obtain ⟨b, rfl⟩ := hch
    rfl

lemma leaves_accessServerExtra (metaOptions : Multimap Text (List Text)) :
    Leaves (accessServerExtra metaOptions) :=
  leaves_of_does (does_accessServerExtra metaOptions) fun _ _ _ hch => by
    obtain ⟨mName, mUsername, rfl⟩ := hch
    rfl

lemma leaves_checkIgnoreAndInvalidOptions (order : KeyOrder Text) :
    Leaves (checkIgnoreAndInvalidOptions order) := fun s s' h => by
  rw [(checkIgnoreAndInvalidOptions_ok h).2, keepCustomOptions_eq]
  rfl

lemma leaves_fixup : Leaves fixup := fun s s' h => by
  rw [fixup_ok h]
  rfl

/-- Stages that leave the routes as they are do so one after the other. -/
lemma inTurn_leaves {fs : List Stage} (h : ∀ f ∈ fs, Leaves f) (hr : inTurn fs s = .ok s') :
    routeFields s'.np = routeFields s.np := by
  induction fs generalizing s with
  | nil =>
    cases hr
    rfl
  | cons f fs ih =>
    rw [List.forall_mem_cons] at h
    rw [inTurn_cons] at hr
    obtain ⟨s₁, h1, hr⟩ := bind_eq_ok.1 hr
    exact (ih h.2 hr).trans (h.1 s s₁ h1)

/-! ### The two stages -/

/-- The stages between those of the two options. -/
def betweenStages : List Stage := [routeIpv6, routeNopull, tlsAuth, keyDirection, tlsCrypt]

/-- The stages behind that of the default route. -/
def laterStages (orders : ℕ → KeyOrder Text) (metaOptions : Multimap Text (List Text)) :
    List Stage :=
  [redirectPrivate, dev, mssfix, mtu, mode, dhcpOption, ifconfig, remoteRandomHostname, float,
   compLzo, cipher, auth, ca, cert, key, pkcs12, cryptoapicert, tlsRemote, verifyX509Name,
   x509UsernameField, verb, nobind, persistTun, pushPeerInfo, connectRetry, connectRetryMax,
   remoteCertTls, authUserPass, authRetry, crlVerify, connections orders, remoteRandom, protoForce,
   accessServerExtra metaOptions, checkIgnoreAndInvalidOptions (orders 0), fixup]

lemma stages_routes (orders : ℕ → KeyOrder Text) (metaOptions : Multimap Text (List Text)) :
    stages orders metaOptions = clientStages ++
      route :: (betweenStages ++ redirectGateway :: laterStages orders metaOptions) := rfl

lemma leaves_clientStages : ∀ f ∈ clientStages, Leaves f := by
  simp only [clientStages, List.forall_mem_cons]
  exact ⟨leaves_client, leaves_secret, by simp⟩

lemma leaves_betweenStages : ∀ f ∈ betweenStages, Leaves f := by
  simp only [betweenStages, List.forall_mem_cons]
  exact ⟨leaves_all does_routeIpv6 fun _ _ _ hch => hch ▸ rfl, leaves_flag fun _ => rfl,
    leaves_tlsAuth, leaves_argument fun _ _ => rfl, leaves_argument fun _ _ => rfl, by simp⟩

lemma leaves_laterStages (orders : ℕ → KeyOrder Text) (metaOptions : Multimap Text (List Text)) :
    ∀ f ∈ laterStages orders metaOptions, Leaves f := by
  simp only [laterStages, List.forall_mem_cons]
  exact ⟨leaves_all does_redirectPrivate fun _ _ _ hch => hch ▸ rfl, leaves_dev,
    leaves_mssfix, leaves_mtu,
    leaves_last does_mode fun _ _ _ hch => hch ▸ rfl, leaves_dhcpOption,
    leaves_ifconfig, leaves_flag fun _ => rfl, leaves_flag fun _ => rfl, leaves_flag fun _ => rfl,
    leaves_argument fun _ _ => rfl, leaves_argument fun _ _ => rfl, leaves_argument fun _ _ => rfl,
    leaves_last does_cert fun _ _ _ hch => hch ▸ rfl, leaves_argument fun _ _ => rfl,
    leaves_last does_pkcs12 fun _ _ _ hch => hch ▸ rfl,
    leaves_last does_cryptoapicert fun _ _ _ hch => hch ▸ rfl, leaves_tlsRemote,
    leaves_verifyX509Name, leaves_argument fun _ _ => rfl, leaves_argument fun _ _ => rfl,
    leaves_flag fun _ => rfl, leaves_flag fun _ => rfl, leaves_flag fun _ => rfl,
    leaves_last does_connectRetry fun _ _ _ hch => hch ▸ rfl, leaves_argument fun _ _ => rfl,
    leaves_remoteCertTls, leaves_authUserPass, leaves_authRetry,
    leaves_crlVerify, leaves_connections, leaves_flag fun _ => rfl,
    leaves_protoForce, leaves_accessServerExtra metaOptions,
    leaves_checkIgnoreAndInvalidOptions (orders 0), leaves_fixup, by simp⟩

/-! ### What the conversion stores -/

/-- The lines of an option are those from before the stage. -/
def LeavesLines (k : Text) (f : Stage) : Prop := ∀ s s', f s = .ok s' → view s' k = view s k

lemma leavesLines_of_does {e : Effect} (h : Does f e) (hk : k ∉ e.names) (hne : k ≠ remotetls) :
    LeavesLines k f := by
  intro s s' hs
  rw [view, (h s s' hs).1, took_foldl_remove e.names s.options k hne, if_neg hk]
  rfl

lemma inTurn_leavesLines {fs : List Stage} (h : ∀ f ∈ fs, LeavesLines k f)
    (hr : inTurn fs s = .ok s') : view s' k = view s k := by
  induction fs generalizing s with
  | nil =>
    cases hr
    rfl
  | cons f fs ih =>
    rw [List.forall_mem_cons] at h
    rw [inTurn_cons] at hr
    obtain ⟨s₁, h1, hr⟩ := bind_eq_ok.1 hr
    exact (ih h.2 hr).trans (h.1 s s₁ h1)

lemma leavesLines_client (hk : k ∈ ["route".toList, "redirect-gateway".toList]) :
    ∀ f ∈ clientStages, LeavesLines k f := by
  have hfree : ∀ k ∈ ["route".toList, "redirect-gateway".toList], k ≠ remotetls ∧
      k ∉ clientEffect.names ∧ k ∉ secretEffect.names := by decide
  obtain ⟨hne, h1, h2⟩ := hfree k hk
  simp only [clientStages, List.forall_mem_cons]
  exact ⟨leavesLines_of_does does_client h1 hne, leavesLines_of_does does_secret h2 hne, by simp⟩

lemma leavesLines_between : ∀ f ∈ betweenStages, LeavesLines "redirect-gateway".toList f := by
  have hne : "redirect-gateway".toList ≠ remotetls := by decide
  simp only [betweenStages, List.forall_mem_cons]
  exact ⟨leavesLines_of_does does_routeIpv6 (by decide) hne,
    leavesLines_of_does does_onFlag (by decide) hne,
    leavesLines_of_does does_tlsAuth (by decide) hne,
    leavesLines_of_does does_onArgument (by decide) hne,
    leavesLines_of_does does_onArgument (by decide) hne, by simp⟩

/-- The words of the lines for a default route. -/
def redirectWords (o : Lines) : List Text := (o "redirect-gateway".toList).flatMap (·.drop 1)

/-- There are lines for a default route, and none of them leaves IPv4 out. -/
def Redirects (o : Lines) : Prop :=
  o "redirect-gateway".toList ≠ [] ∧ "!ipv4".toList ∉ redirectWords o

lemma routeFields_foldl (words : List Text) (np : VpnProfile) :
    routeFields (words.foldl redirectWord np) = routeFields np := by
  induction words generalizing np with
  | nil => rfl
  | cons w words ih =>
    rw [List.foldl_cons, ih, redirectWord]
    split_ifs <;> rfl

lemma routeFields_checkRedirectParameters (np : VpnProfile) (defgw : List (List Text)) :
    routeFields (checkRedirectParameters np defgw true) =
      (if "!ipv4".toList ∈ defgw.flatMap (·.drop 1) then np.mUseDefaultRoute else true,
        np.mCustomRoutes, np.mExcludedRoutes) := by
  have hsame := routeFields_foldl (defgw.flatMap (·.drop 1)) np
  unfold checkRedirectParameters
  rw [if_pos rfl]
  dsimp only
  split_ifs
  · exact hsame
  · have hsnd := congrArg Prod.snd hsame
    exact congrArg (Prod.mk true) hsnd

/-- **The default route** is marked exactly where the lines ask for it. -/
lemma redirectGateway_ok (h : redirectGateway s = .ok s') (hd : s.np.mUseDefaultRoute = false) :
    (s'.np.mUseDefaultRoute = true ↔ Redirects (view s)) ∧
      s'.np.mCustomRoutes = s.np.mCustomRoutes ∧ s'.np.mExcludedRoutes = s.np.mExcludedRoutes := by
  obtain ⟨-, hc⟩ := does_redirectGateway s s' h
  change (if view s "redirect-gateway".toList = [] then _ else _) at hc
  split_ifs at hc with hnil
  · rw [hc, hd]
    exact ⟨iff_of_false Bool.false_ne_true fun hr => hr.1 hnil, rfl, rfl⟩
  · have hfields := routeFields_checkRedirectParameters s.np (view s "redirect-gateway".toList)
    rw [← hc] at hfields
    simp only [routeFields, Prod.mk.injEq] at hfields
    obtain ⟨hdefault, hsame⟩ := hfields
    refine ⟨?_, hsame⟩
    rw [hdefault, hd, Redirects, redirectWords, and_iff_right hnil]
    split_ifs with hw
    · exact iff_of_false id (not_not.2 hw)
    · exact iff_of_true rfl hw

/-- **What is stored of the routes** of a configuration. -/
lemma routes_of_convert (h : convertProfile orders p = .ok s) : ∃ s₁ s₂,
    view s₁ "route".toList = p.options.get "route".toList ∧ s₁.np.mCustomRoutes = none ∧
      s₁.np.mExcludedRoutes = none ∧ route s₁ = .ok s₂ ∧
      s.np.mCustomRoutes = s₂.np.mCustomRoutes ∧ s.np.mExcludedRoutes = s₂.np.mExcludedRoutes ∧
      (s.np.mUseDefaultRoute = true ↔ Redirects p.options.get) := by
  rw [convertProfile, stages_routes, inTurn_append] at h
  obtain ⟨s₁, h1, h⟩ := bind_eq_ok.1 h
  rw [inTurn_cons] at h
  obtain ⟨s₂, h2, h⟩ := bind_eq_ok.1 h
  rw [inTurn_append] at h
  obtain ⟨s₃, h3, h⟩ := bind_eq_ok.1 h
  rw [inTurn_cons] at h
  obtain ⟨s₄, h4, h⟩ := bind_eq_ok.1 h
  have hstart : routeFields s₁.np = (false, none, none) := inTurn_leaves leaves_clientStages h1
  have hbetween := inTurn_leaves leaves_betweenStages h3
  have hlater := inTurn_leaves (leaves_laterStages orders p.metaOptions) h
  simp only [routeFields, Prod.mk.injEq] at hstart hbetween hlater
  obtain ⟨hd, hcustom, hexcluded⟩ := hstart
  have hview : ∀ k ∈ ["route".toList, "redirect-gateway".toList],
      view s₁ k = p.options.get k := fun k hk => inTurn_leavesLines (leavesLines_client hk) h1
  have hroute : s₂.np.mUseDefaultRoute = false ∧
      view s₂ "redirect-gateway".toList = p.options.get "redirect-gateway".toList := by
    have hlines := leavesLines_of_does (k := "redirect-gateway".toList) does_route (by decide)
      (by decide) s₁ s₂ h2
    obtain ⟨-, hc⟩ := does_route s₁ s₂ h2
    change (if view s₁ "route".toList = [] then _ else _) at hc
    refine ⟨?_, hlines.trans (hview _ (by simp))⟩
    split_ifs at hc
    · rw [hc, hd]
    · obtain ⟨r, -, hc⟩ := hc
      rw [hc, hd]
  obtain ⟨hdefault, hsame⟩ := redirectGateway_ok h4 (hbetween.1.trans hroute.1)
  have hlines : view s₃ "redirect-gateway".toList = p.options.get "redirect-gateway".toList :=
    (inTurn_leavesLines leavesLines_between h3).trans hroute.2
  refine ⟨s₁, s₂, hview _ (by simp), hcustom, hexcluded, h2, ?_, ?_, ?_⟩
  · rw [hlater.2.1, hsame.1, hbetween.2.1]
  · rw [hlater.2.2, hsame.2, hbetween.2.2]
  · rw [hlater.1, hdefault, Redirects, Redirects, redirectWords, redirectWords, hlines]

end BuludTechVPN.FileReading
