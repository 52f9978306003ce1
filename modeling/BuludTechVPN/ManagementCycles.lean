import BuludTechVPN.LineParser
import BuludTechVPN.ManagementAnswers
import BuludTechVPN.ManagementInput

/-!
From the bytes on the management socket to the tun device.

OpenVPN asks for one setting after another, and at the end of a cycle for the tun device. However
the socket cuts the lines into reads, the device that is sent back is the one that the settings of
its own cycle ask for.
-/

namespace BuludTechVPN.Management

open JavaLang Tun Cidr LineParser

/-! ### Lines of OpenVPN -/

/-- How OpenVPN words a query, before the quoted name and after it. -/
structure Wording where
  before : Text
  after : Text
  before_line : IsLine before
  after_line : IsLine after
  before_plain : '\x27' ∉ before ∧ ':' ∉ before
  after_plain : ':' ∉ after

/-- The argument of the line of a query. -/
def Wording.argument (w : Wording) (needed extra : Text) : Text :=
  w.before ++ '\x27' :: (needed ++ '\x27' :: (w.after ++ ':' :: extra))

def Wording.line (w : Wording) (needed extra : Text) : Text :=
  ">NEED-OK:".toList ++ w.argument needed extra

/-- The words that a setting is written as. -/
def words : Setting → List Text
  | .setLocalIP loc netmask mtu mode => [loc, netmask, showInt mtu, mode]
  | .setLocalIPv6 ipv6addr => [ipv6addr]
  | .addRoute dest mask gateway none => [dest, mask, gateway]
  | .addRoute dest mask gateway (some device) => [dest, mask, gateway, "dev".toList, device]
  | .addRoutev6 network device => network :: device.toList
  | .addDNS dns => [dns]
  | .setDomain domain => [domain]

/-- What OpenVPN needs when it asks for a setting. -/
def Asks : Setting → Need → Prop
  | .setLocalIP _ _ mtu _, .ifconfig => -2 ^ 31 ≤ mtu ∧ mtu < 2 ^ 31
  | .setLocalIPv6 _, .ifconfig6 => True
  | .addRoute _ _ _ _, .route => True
  | .addRoutev6 _ device, .route6 => device ≠ none
  | .addDNS _, .dnsserver => True
  | .addDNS _, .dns6server => True
  | .setDomain _, .dnsdomain => True
  | _, _ => False

/-- A setting that OpenVPN asks for. -/
structure Query where
  setting : Setting
  need : Need
  asks : Asks setting need
  lines : ∀ w ∈ words setting, IsLine w
  /-- Where there are several words, they can be told apart. -/
  apart : 1 < (words setting).length → ∀ w ∈ words setting, ' ' ∉ w ∧ w ≠ []

def Query.line (w : Wording) (q : Query) : Text :=
  w.line q.need.name ([' '].intercalate (words q.setting))

def openTunLine (w : Wording) : Text := w.line Need.opentun.name "tun".toList

/-- The lines of a cycle. -/
def cycleLines (w : Wording) (queries : List Query) : List Text :=
  queries.map (Query.line w) ++ [openTunLine w]

/-! ### Reading a line -/

variable {m : Moment} {s t : Session} {w : Wording} {needed extra : Text}

lemma splitUpTo_append {c : Char} {x y : Text} {n : ℕ} (h : c ∉ x) :
    splitUpTo c (n + 1) (x ++ c :: y) = x :: splitUpTo c n y := by
  have hx : ∀ d ∈ x, decide (d ≠ c) = true := fun d hd =>
    decide_eq_true fun e => h (e ▸ hd)
  rw [splitUpTo, if_pos (by simp), List.takeWhile_append_of_pos hx, List.dropWhile_append_of_pos hx]
  simp

@[simp] lemma ofName_name (n : Need) : Need.ofName n.name = some n := by
  cases n <;> rfl

lemma name_plain (n : Need) : '\x27' ∉ n.name ∧ ':' ∉ n.name ∧ IsLine n.name := by
  cases n <;> decide

lemma quoted_argument (h : '\x27' ∉ needed) :
    quoted (w.argument needed extra) = .ok (needed, w.after ++ ':' :: extra) := by
  unfold quoted Wording.argument
  rw [splitUpTo_append w.before_plain.1, splitUpTo_append h, splitUpTo]

lemma extra_argument (h : ':' ∉ needed) :
    arrayGet (splitUpTo ':' 1 (w.argument needed extra)) 1 = .ok extra := by
  have hcolon : ':' ∉ w.before ++ '\x27' :: (needed ++ '\x27' :: w.after) := by
    simp only [List.mem_append, List.mem_cons, not_or]
    exact ⟨w.before_plain.2, by decide, h, by decide, w.after_plain⟩
  have hsplit : w.argument needed extra =
      (w.before ++ '\x27' :: (needed ++ '\x27' :: w.after)) ++ ':' :: extra := by
    simp [Wording.argument]
  rw [hsplit, splitUpTo_append hcolon, splitUpTo]
  rfl

lemma processCommand_line : s.processCommand m (w.line needed extra) =
    s.processNeedCommand m (w.argument needed extra) := by
  have hline : w.line needed extra = ">NEED-OK".toList ++ ':' :: w.argument needed extra := rfl
  have hcolon : contains (w.line needed extra) [':'] = true :=
    contains_singleton.2 (hline ▸ List.mem_append_right _ List.mem_cons_self)
  have hcond : startsWith (w.line needed extra) ">".toList = true ∧
      contains (w.line needed extra) ":".toList = true := ⟨rfl, hcolon⟩
  unfold Session.processCommand
  rw [if_pos hcond, hline, splitUpTo_append (by decide), splitUpTo]
  rfl

/-- A query of a known name is met, and what is left to say is said. -/
lemma processCommand_need (n : Need) : s.processCommand m (w.line n.name extra) =
    (s.meet m (w.argument n.name extra) n.name extra n >>= fun met =>
      .ok (met.2.elim met.1 fun status => met.1.managmentCommand (needok n.name status))) := by
  obtain ⟨h1, h2, -⟩ := name_plain n
  rw [processCommand_line]
  unfold Session.processNeedCommand
  rw [quoted_argument h1, extra_argument h2]
  simp only [bind, Except.bind, ofName_name]
  cases s.meet m (w.argument n.name extra) n.name extra n with
  | error e => rfl
  | ok met =>
    obtain ⟨s', status⟩ := met
    cases status <;> rfl

/-- The parts that a setting of several words is split into. -/
lemma splitAt_words {q : Query} (h : 1 < (words q.setting).length) :
    splitAt (· = ' ') ([' '].intercalate (words q.setting)) = words q.setting :=
  splitAt_intercalate (q.apart h) h

/-- **A query is read back** as the setting that it was written from. -/
lemma meet_query (q : Query) {argument : Text} : s.meet m argument q.need.name
    ([' '].intercalate (words q.setting)) q.need =
      (s.set m q.setting >>= fun s => .ok (s, some "ok".toList)) := by
  obtain ⟨setting, need, asks, lines, apart⟩ := q
  have hsplit (h : 1 < (words setting).length) :=
    splitAt_words (q := ⟨setting, need, asks, lines, apart⟩) h
  simp only at hsplit ⊢
  cases setting with
  | setLocalIP loc netmask mtu mode =>
    cases need <;> first | exact asks.elim | skip
    have hmtu : parseInt (showInt mtu) = .ok mtu := parseSigned_showInt asks.1 asks.2
    have hset : s.processIfconfig m ([' '].intercalate (words (.setLocalIP loc netmask mtu mode))) =
        s.set m (.setLocalIP loc netmask mtu mode) := by
      unfold Session.processIfconfig
      rw [hsplit (by simp [words])]
      show (parseInt (showInt mtu) >>= fun mtu => s.set m (.setLocalIP loc netmask mtu mode)) = _
      rw [hmtu]
      rfl
    unfold Session.meet
    simp only [hset]
    rfl
  | setLocalIPv6 ipv6addr =>
    cases need <;> first | exact asks.elim | skip
    have hone : [' '].intercalate (words (.setLocalIPv6 ipv6addr)) = ipv6addr := by
      simp [words]
    rw [hone]
    rfl
  | addRoute dest mask gateway device =>
    cases need <;> first | exact asks.elim | skip
    unfold Session.meet Session.processRoute
    cases device with
    | none =>
      rw [hsplit (by simp [words])]
      rfl
    | some device =>
      rw [hsplit (by simp [words])]
      rfl
  | addRoutev6 network device =>
    cases need <;> first | exact asks.elim | skip
    obtain ⟨device, rfl⟩ := Option.ne_none_iff_exists'.1 asks
    unfold Session.meet Session.processRoute6
    simp only [hsplit (by simp [words])]
    rfl
  | addDNS dns =>
    have hone : [' '].intercalate (words (.addDNS dns)) = dns := by simp [words]
    cases need <;> first | exact asks.elim | skip
    · rw [hone]
      rfl
    · rw [hone]
      rfl
  | setDomain domain =>
    cases need <;> first | exact asks.elim | skip
    have hone : [' '].intercalate (words (.setDomain domain)) = domain := by simp [words]
    rw [hone]
    rfl

/-! ### Services that were used before -/

section Reused

variable {d : Device} {a b a' b' f f' : Service} {x : Setting} {settings : List Setting}

/-- Only `setLocalIP` sets the MTU. -/
lemma push_mtu (h : a.push d x = .ok b) :
    (∃ loc netmask mode, x = .setLocalIP loc netmask b.mMtu mode) ∨
      b.mMtu = a.mMtu ∧ b.mLocalIP = a.mLocalIP := by
  cases x with
  | setLocalIP loc netmask mtu mode =>
    unfold Service.push Service.setLocalIP at h
    simp only [bind_eq_ok] at h
    obtain ⟨_, -, _, -, _, -, h⟩ := h
    cases h
    exact .inl ⟨loc, netmask, mode, rfl⟩
  | setLocalIPv6 ipv6addr =>
    cases h
    exact .inr ⟨rfl, rfl⟩
  | addRoute dest mask gateway device =>
    unfold Service.push Service.addRoute at h
    simp only [bind_eq_ok] at h
    obtain ⟨_, -, _, -, h⟩ := h
    split at h
    · cases h
      exact .inr ⟨rfl, rfl⟩
    · simp only [bind_eq_ok] at h
      obtain ⟨_, -, _, -, _, -, h⟩ := h
      cases h
      exact .inr ⟨rfl, rfl⟩
  | addRoutev6 network device =>
    unfold Service.push Service.addRoutev6 at h
    simp only [bind_eq_ok] at h
    obtain ⟨_, -, h⟩ := h
    split at h
    · cases h
      exact .inr ⟨rfl, rfl⟩
    · cases h
    · simp only [bind_eq_ok] at h
      obtain ⟨_, -, _, -, h⟩ := h
      cases h
      exact .inr ⟨rfl, rfl⟩
  | addDNS dns =>
    cases h
    exact .inr ⟨rfl, rfl⟩
  | setDomain domain =>
    cases h
    unfold Service.setDomain
    split
    · exact .inr ⟨rfl, rfl⟩
    · exact .inr ⟨rfl, rfl⟩

/-- Services that hold the same settings, the MTU among them if there is an address. -/
structure Alike (a f : Service) : Prop where
  agree : Agree a f
  mMtu : a.mLocalIP ≠ none → a.mMtu = f.mMtu

lemma Alike.push (h : Alike a f) (hf : f.push d x = .ok f') :
    ∃ a', a.push d x = .ok a' ∧ Alike a' f' := by
  have hback : Agree f a := ⟨h.agree.mProfile.symm, h.agree.mDnslist.symm, h.agree.mRoutes.symm,
    h.agree.mRoutesv6.symm, h.agree.mLocalIP.symm, h.agree.mLocalIPv6.symm, h.agree.mDomain.symm,
    fun hne => (h.agree.mRemoteGW (h.agree.mLocalIP ▸ hne)).symm⟩
  obtain ⟨a', ha', -⟩ := hback.push hf
  obtain ⟨f'', hf'', hagree⟩ := h.agree.push ha'
  obtain rfl := Except.ok.inj (hf''.symm.trans hf)
  refine ⟨a', ha', hagree, fun hne => ?_⟩
  rcases push_mtu ha' with ⟨loc, netmask, mode, hx⟩ | ⟨hmtu, hip⟩
  · rcases push_mtu hf with ⟨loc', netmask', mode', hx'⟩ | ⟨hmtu', hip'⟩
    · rw [hx] at hx'
      exact (Setting.setLocalIP.inj hx').2.2.1
    · rw [hx] at hf
      unfold Service.push Service.setLocalIP at hf
      simp only [bind_eq_ok] at hf
      obtain ⟨_, -, _, -, _, -, hf⟩ := hf
      cases hf
      rfl
  · rcases push_mtu hf with ⟨loc', netmask', mode', hx'⟩ | ⟨hmtu', hip'⟩
    · rw [hx'] at ha'
      unfold Service.push Service.setLocalIP at ha'
      simp only [bind_eq_ok] at ha'
      obtain ⟨_, -, _, -, _, -, ha'⟩ := ha'
      cases ha'
      rfl
    · rw [hmtu, hmtu', h.mMtu (hip ▸ hne)]

lemma Alike.pushAll (h : Alike a f) (hf : f.pushAll d settings = .ok f') :
    ∃ a', a.pushAll d settings = .ok a' ∧ Alike a' f' := by
  unfold Service.pushAll at hf ⊢
  induction settings generalizing a f with
  | nil =>
    cases hf
    exact ⟨a, rfl, h⟩
  | cons x settings ih =>
    rw [List.foldlM_cons] at hf
    obtain ⟨f₁, hf₁, hf⟩ := bind_eq_ok.1 hf
    obtain ⟨a₁, ha₁, h₁⟩ := h.push hf₁
    obtain ⟨a', ha', h'⟩ := ih h₁ hf
    exact ⟨a', by rw [List.foldlM_cons, ha₁]; exact ha', h'⟩

lemma Alike.opens (h : Alike a f) (ho : Opens d f) : Opens d a := by
  obtain ⟨ip, hip, hacc⟩ := ho.ip
  have hne : a.mLocalIP ≠ none := by
    rw [h.agree.mLocalIP, hip]
    exact Option.some_ne_none ip
  have hmtu : a.tunMtu d = f.tunMtu d := by
    unfold Service.tunMtu
    rw [h.mMtu hne]
  exact ⟨⟨ip, h.agree.mLocalIP.trans hip, hacc⟩, fun ip6 h6 => ho.ip6 ip6 (h.agree.mLocalIPv6 ▸ h6),
    hmtu ▸ ho.mtu, fun hsdk => h.agree.mProfile ▸ ho.apps hsdk⟩

/-- The profile after the packages are set does not depend on the builder. -/
lemma allowPackages_profile {p q q' : Tun.VpnProfile} {pkgs : List Text} {c c' e e' : Builder}
    (h : Service.allowPackages d pkgs (p, c) = .ok (q, e))
    (h' : Service.allowPackages d pkgs (p, c') = .ok (q', e')) : q = q' := by
  induction pkgs generalizing c c' with
  | nil =>
    cases h
    cases h'
    rfl
  | cons pkg pkgs ih =>
    rw [Service.allowPackages] at h h'
    split_ifs at h h'
    · exact ih h h'
    · exact ih h h'
    · cases h
      cases h'
      rfl

lemma setAllowedVpnPackages_profile {p q q' : Tun.VpnProfile} {c c' e e' : Builder}
    (h : Service.setAllowedVpnPackages d p c = .ok (q, e))
    (h' : Service.setAllowedVpnPackages d p c' = .ok (q', e')) : q = q' := by
  unfold Service.setAllowedVpnPackages at h h'
  split_ifs at h h'
  · obtain ⟨⟨r, g⟩, hr, h⟩ := bind_eq_ok.1 h
    obtain ⟨⟨r', g'⟩, hr', h'⟩ := bind_eq_ok.1 h'
    obtain rfl := allowPackages_profile hr hr'
    simp only at h h'
    split_ifs at h h' <;> cases h <;> cases h' <;> rfl
  · cases h
    cases h'
    rfl

/-- Opening the tun device leaves the profile that the packages leave. -/
lemma openTun_profile {u u' : Service} {o o' : Service.Opened} (hp : a.mProfile = f.mProfile)
    (ha : Opens d a) (hf : Opens d f) (h : a.openTun d = .ok (u, o))
    (h' : f.openTun d = .ok (u', o')) : u.mProfile = u'.mProfile := by
  have hleft {a u : Service} {o : Service.Opened} (ha : Opens d a) (h : a.openTun d = .ok (u, o)) :
      ∃ c q e, Service.setAllowedVpnPackages d a.mProfile c = .ok (q, e) ∧ u.mProfile = q := by
    obtain ⟨ip, hip, hacc⟩ := ha.ip
    obtain ⟨routes, hl⟩ := withLocalNetworks_ok d a
    have hne : ¬ (a.mLocalIP = none ∧ a.mLocalIPv6 = none) := by simp [hip]
    have hadd := addAddresses_ok (d := d) (s := { a with mRoutes := routes }) hip hacc ha.ip6
    unfold Service.openTun at h
    simp only [if_neg hne, bind_eq_ok] at h
    obtain ⟨l, hl', ob, hob, h⟩ := h
    obtain rfl := Except.ok.inj (hl.symm.trans hl')
    rw [hadd] at hob
    cases hob
    unfold Service.finishTun at h
    simp only [bind_eq_ok] at h
    obtain ⟨b', hmtu, mLocalIP, hlocal, ⟨q, e⟩, hq, h⟩ := h
    cases h
    exact ⟨_, q, e, hq, rfl⟩
  obtain ⟨c, q, e, hq, rfl⟩ := hleft ha h
  obtain ⟨c', q', e', hq', rfl⟩ := hleft hf h'
  exact setAllowedVpnPackages_profile hq (hp ▸ hq')

end Reused

/-! ### Cycles -/

/-- The thread answers line after line, the `n`-th of them at the moment `n`. -/
def respond (moments : ℕ → Moment) (p : Session × ℕ) (line : Text) : Call (Session × ℕ) := do
  return (← p.1.processCommand (moments p.2) line, p.2 + 1)

/-- What tun devices are to be given in cycles of settings, each of which is pushed to a service
that has nothing stored. -/
inductive Serves (d : Device) : Tun.VpnProfile → List (List Query) → List Given → Prop
  | nil (p : Tun.VpnProfile) : Serves d p [] []
  | cons {p : Tun.VpnProfile} {queries : List Query} {cycles : List (List Query)} {f l u : Service}
      {o : Service.Opened} {given : List Given}
      (hpush : (Service.fresh p).pushAll d (queries.map Query.setting) = .ok f)
      (hopens : Opens d f) (hlocal : f.withLocalNetworks d = .ok l) (hopen : f.openTun d = .ok (u, o))
      (more : Serves d u.mProfile cycles given) : Serves d p (queries :: cycles) (l.given d :: given)

/-- The answers to the queries, and to the one for the tun device. -/
def answersTo (queries : List Query) : Text :=
  (queries.flatMap fun q => needok q.need.name "ok".toList) ++
    needok Need.opentun.name "ok".toList

/-- What a thread comes to: its service, the devices it has sent and what it has written. -/
structure Leaves (s s' : Session) (service : Service) (tuns : List Builder) (text : Text) :
    Prop where
  mOpenVPNService : s'.mOpenVPNService = service
  tuns : s'.tuns = s.tuns ++ tuns
  mSocket : s'.phone.thread.mSocket = s.phone.thread.mSocket
  output : s'.output = s.output ++ if s.phone.thread.mSocket then text else []

lemma Leaves.trans {u : Session} {v v' : Service} {l l' : List Builder} {x x' : Text}
    (h : Leaves s t v l x) (h' : Leaves t u v' l' x') : Leaves s u v' (l ++ l') (x ++ x') where
  mOpenVPNService := h'.mOpenVPNService
  tuns := by rw [h'.tuns, h.tuns, List.append_assoc]
  mSocket := h'.mSocket.trans h.mSocket
  output := by
    rw [h'.output, h.output, h.mSocket]
    split_ifs
    · rw [List.append_assoc]
    · simp

variable {d : Device} {moments : ℕ → Moment} {n : ℕ} {queries : List Query}
  {cycles : List (List Query)} {given : List Given}

/-- **A setting** reaches the service, and is confirmed. -/
lemma processCommand_query (q : Query) {v : Service} (hd : m.device = d)
    (h : s.mOpenVPNService.push d q.setting = .ok v) :
    ∃ s', s.processCommand m (q.line w) = .ok s' ∧
      Leaves s s' v [] (needok q.need.name "ok".toList) := by
  have hset : s.set m q.setting = .ok { s with mOpenVPNService := v } := by
    unfold Session.set
    rw [hd, h]
    rfl
  unfold Query.line
  rw [processCommand_need, meet_query, hset]
  exact ⟨_, rfl, rfl, (List.append_nil _).symm, mSocket_managmentCommand _, output_managmentCommand _⟩

lemma respond_queries (hd : ∀ n, (moments n).device = d) {v : Service}
    (h : s.mOpenVPNService.pushAll d (queries.map Query.setting) = .ok v) :
    ∃ s', (queries.map (Query.line w)).foldlM (respond moments) (s, n) =
        .ok (s', n + queries.length) ∧
      Leaves s s' v [] (queries.flatMap fun q => needok q.need.name "ok".toList) := by
  unfold Service.pushAll at h
  induction queries generalizing s n with
  | nil =>
    cases h
    exact ⟨s, rfl, rfl, (List.append_nil _).symm, rfl, by simp⟩
  | cons q queries ih =>
    rw [List.map_cons, List.foldlM_cons] at h
    obtain ⟨v', hv', h⟩ := bind_eq_ok.1 h
    obtain ⟨s₁, hs₁, hleaves₁⟩ := processCommand_query (w := w) q (hd n) hv'
    rw [← hleaves₁.mOpenVPNService] at h
    obtain ⟨s', hs', hleaves⟩ := ih (n := n + 1) h
    refine ⟨s', ?_, hleaves₁.trans hleaves⟩
    rw [List.map_cons, List.foldlM_cons]
    refine bind_eq_ok.2 ⟨(s₁, n + 1), bind_eq_ok.2 ⟨s₁, hs₁, rfl⟩, ?_⟩
    rw [hs', List.length_cons, Nat.add_assoc, Nat.add_comm 1]

/-- **The tun device** is opened and sent. -/
lemma processCommand_openTun {u : Service} {b : Builder} (hd : m.device = d)
    (hsends : m.sendsDescriptors = true) (h : s.mOpenVPNService.openTun d = .ok (u, ⟨some b, true⟩)) :
    ∃ s', s.processCommand m (openTunLine w) = .ok s' ∧
      Leaves s s' u [b] (needok Need.opentun.name "ok".toList) := by
  have hsent : s.sendTunFD m Need.opentun.name "tun".toList =
      .ok (({ s with mOpenVPNService := u, tuns := s.tuns ++ [b] } : Session).managmentCommand
        (needok Need.opentun.name "ok".toList), true) := by
    unfold Session.sendTunFD
    rw [if_neg (by simp), hd, h]
    simp only [bind, Except.bind, hsends]
    rfl
  unfold openTunLine
  rw [processCommand_need]
  unfold Session.meet
  simp only [hsent]
  exact ⟨_, rfl, rfl, rfl, mSocket_managmentCommand _, output_managmentCommand _⟩

/-- **One cycle**: the device that is sent is the one that the settings of the cycle ask for on a
service that has nothing stored, whatever this one was used for before. -/
lemma respond_cycle {f l u : Service} {o : Service.Opened} (hd : ∀ n, (moments n).device = d)
    (hsends : ∀ n, (moments n).sendsDescriptors = true) (hest : d.establishes = true)
    (hunset : s.mOpenVPNService.Unset)
    (hpush : (Service.fresh s.mOpenVPNService.mProfile).pushAll d (queries.map Query.setting) = .ok f)
    (hopens : Opens d f) (hlocal : f.withLocalNetworks d = .ok l) (hopen : f.openTun d = .ok (u, o)) :
    ∃ s' v b, (cycleLines w queries).foldlM (respond moments) (s, n) =
        .ok (s', n + (cycleLines w queries).length) ∧
      Leaves s s' v [b] (answersTo queries) ∧ v.Unset ∧ v.mProfile = u.mProfile ∧
        b.given = l.given d := by
  have halike : Alike s.mOpenVPNService (.fresh s.mOpenVPNService.mProfile) :=
    ⟨hunset.agree, fun hne => absurd hunset.mLocalIP hne⟩
  obtain ⟨t, ht, halike'⟩ := halike.pushAll hpush
  have htopens := halike'.opens hopens
  obtain ⟨lt, v, b, hlt, hv, hvunset, hgiven⟩ := openTun_of_opens htopens
  obtain ⟨l', hl', hsame⟩ := halike'.agree.given hlt
  obtain rfl := Except.ok.inj (hlocal.symm.trans hl')
  obtain ⟨s₁, hs₁, hleaves₁⟩ := respond_queries (w := w) (n := n) hd ht
  rw [hest, ← hleaves₁.mOpenVPNService] at hv
  obtain ⟨s', hs', hleaves⟩ := processCommand_openTun (w := w) (hd (n + queries.length))
    (hsends (n + queries.length)) hv
  refine ⟨s', v, b, ?_, hleaves₁.trans hleaves, hvunset, ?_, hgiven.trans hsame.symm⟩
  · unfold cycleLines
    rw [List.foldlM_append, hs₁]
    refine bind_eq_ok.2 ⟨_, rfl, bind_eq_ok.2 ⟨(s', n + queries.length + 1),
      bind_eq_ok.2 ⟨s', hs', rfl⟩, ?_⟩⟩
    simp [pure, Except.pure, Nat.add_assoc]
  · rw [hleaves₁.mOpenVPNService] at hv
    exact openTun_profile halike'.agree.mProfile htopens hopens hv hopen

lemma respond_cycles (hd : ∀ n, (moments n).device = d)
    (hsends : ∀ n, (moments n).sendsDescriptors = true) (hest : d.establishes = true)
    (hunset : s.mOpenVPNService.Unset) (h : Serves d s.mOpenVPNService.mProfile cycles given) :
    ∃ s' v tuns, (cycles.flatMap (cycleLines w)).foldlM (respond moments) (s, n) =
        .ok (s', n + (cycles.flatMap (cycleLines w)).length) ∧
      Leaves s s' v tuns (cycles.flatMap answersTo) ∧ v.Unset ∧ tuns.map Builder.given = given := by
  generalize hp : s.mOpenVPNService.mProfile = p at h
  induction h generalizing s n with
  | nil p =>
    exact ⟨s, s.mOpenVPNService, [], rfl, ⟨rfl, (List.append_nil _).symm, rfl, by simp⟩, hunset, rfl⟩
  | cons hpush hopens hlocal hopen more ih =>
    subst hp
    obtain ⟨s₁, v₁, b, hs₁, hleaves₁, hv₁, hprofile, hgiven⟩ := respond_cycle (w := w) (n := n) hd
      hsends hest hunset hpush hopens hlocal hopen
    rw [← hleaves₁.mOpenVPNService] at hv₁ hprofile
    obtain ⟨s', v, tuns, hs', hleaves, hv, htuns⟩ := ih hv₁ hprofile
    refine ⟨s', v, b :: tuns, ?_, hleaves₁.trans hleaves, hv, by rw [List.map_cons, hgiven, htuns]⟩
    rw [List.flatMap_cons, List.foldlM_append, hs₁]
    refine bind_eq_ok.2 ⟨_, rfl, hs'.trans ?_⟩
    rw [List.length_append, Nat.add_assoc]

/-! ### From the bytes -/

lemma isLine_argument {n : Need} (h : IsLine extra) : IsLine (w.line n.name extra) := by
  obtain ⟨-, -, hname⟩ := name_plain n
  unfold Wording.line Wording.argument
  simp only [isLine_append, isLine_cons]
  exact ⟨by decide, w.before_line, by decide, by decide, hname, by decide, by decide, w.after_line,
    by decide, by decide, h⟩

lemma isLine_intercalate {ws : List Text} (h : ∀ l ∈ ws, IsLine l) :
    IsLine ([' '].intercalate ws) := by
  induction ws with
  | nil => simp
  | cons x ws ih =>
    have hx := h x List.mem_cons_self
    cases ws with
    | nil => simpa using hx
    | cons y ws =>
      rw [List.intercalate_cons_cons, isLine_append, isLine_append]
      exact ⟨⟨hx, by decide⟩, ih fun l hl => h l (List.mem_cons_of_mem _ hl)⟩

lemma isLine_cycles : ∀ l ∈ cycles.flatMap (cycleLines w), IsLine l := by
  intro l hl
  obtain ⟨queries, -, hl⟩ := List.mem_flatMap.1 hl
  rcases List.mem_append.1 hl with hl | hl
  · obtain ⟨q, -, rfl⟩ := List.mem_map.1 hl
    exact isLine_argument (isLine_intercalate q.lines)
  · obtain rfl := List.mem_singleton.1 hl
    exact isLine_argument (by decide)

/-- Lines that are ended one by one are the complete lines, and nothing is left over. -/
lemma complete_ended {ls : List Text} (h : ∀ l ∈ ls, IsLine l) :
    Lines.complete (ls.flatMap (· ++ ['\n'])) = ls ∧
      Lines.unterminated (ls.flatMap (· ++ ['\n'])) = [] := by
  have hchomp (l : Text) (hl : '\r' ∉ l) : Lines.chomp l = l := by
    fun_induction Lines.chomp l with
    | case1 => rfl
    | case2 => simp at hl
    | case3 c l hc ih => rw [ih fun hm => hl (List.mem_cons_of_mem _ hm)]
  induction ls with
  | nil => exact ⟨rfl, rfl⟩
  | cons l ls ih =>
    obtain ⟨hn, hr⟩ := h l List.mem_cons_self
    obtain ⟨h1, h2⟩ := ih fun l hl => h l (List.mem_cons_of_mem _ hl)
    rw [List.flatMap_cons, List.append_assoc, List.singleton_append, Lines.complete_line hn,
      Lines.unterminated_line hn, h1, h2, hchomp l hr]
    exact ⟨rfl, rfl⟩

/-- **From the socket to the tun device**: over any number of cycles, in whatever reads the bytes
arrive that cut no character, each query is confirmed in turn, and each cycle is sent the tun
device that its own settings ask for on a service with nothing stored. -/
theorem run_cycles (utf8 : Utf8.Decoder) (w : Wording) (d : Device) (moments : ℕ → Moment)
    (hd : ∀ n, (moments n).device = d) (hsends : ∀ n, (moments n).sendsDescriptors = true)
    (hest : d.establishes = true) (s : Session) (hunset : s.mOpenVPNService.Unset)
    (cycles : List (List Query)) (given : List Given)
    (h : Serves d s.mOpenVPNService.mProfile cycles given) (reads : List (List UInt8))
    (hreads : Utf8.encode ((cycles.flatMap (cycleLines w)).flatMap (· ++ ['\n'])) = reads.flatten)
    (hwhole : ∀ buffer ∈ reads, Utf8.Whole buffer) :
    ∃ s' v tuns, ManagementInput.run (respond moments) utf8 (s, 0) [] reads =
        ⟨cycles.flatMap (cycleLines w), .ok ((s', (cycles.flatMap (cycleLines w)).length), [])⟩ ∧
      Leaves s s' v tuns (cycles.flatMap answersTo) ∧ v.Unset ∧ tuns.map Builder.given = given := by
  obtain ⟨s', v, tuns, hs', hleaves, hv, hgiven⟩ := respond_cycles (w := w) (n := 0) hd hsends hest
    hunset h
  have hlines' : ∀ l ∈ cycles.flatMap (cycleLines w), IsLine l := isLine_cycles
  obtain ⟨hlines, hrest⟩ := complete_ended hlines'
  refine ⟨s', v, tuns, ?_, hleaves, hv, hgiven⟩
  rw [ManagementInput.run_eq utf8 reads (s, 0) (by simp), List.nil_append,
    utf8.flatMap_decode_of_whole hreads hwhole, hlines, hrest]
  refine ManagementInput.deliver_eq_ok.2 ⟨rfl, rfl, ?_⟩
  rw [hs', Nat.zero_add]

/-- A network with the DNS server `dns`. -/
def networkQueries (dns : String) (h : IsLine dns.toList) : List Query :=
  [⟨.setLocalIP "10.8.0.6".toList "255.255.255.0".toList 1500 "subnet".toList, .ifconfig,
      ⟨by decide, by decide⟩, by decide, fun _ => by decide⟩,
    ⟨.addDNS dns.toList, .dnsserver, trivial, by simpa [words] using h, fun h => by simp [words] at h⟩]

def twoNetworks : List (List Query) :=
  [networkQueries "10.8.0.1" (by decide), networkQueries "10.8.0.9" (by decide)]

def plainWording : Wording where
  before := "Need ".toList
  after := " confirmation MSG".toList
  before_line := by decide
  after_line := by decide
  before_plain := by decide
  after_plain := by decide

lemma twoNetworks_served : Serves anyPhone anyProfile twoNetworks
    [(stored ["10.8.0.1"] none).given anyPhone, (stored ["10.8.0.9"] none).given anyPhone] := by
  have hcycle (dns : String) (hdns : IsLine dns.toList) {cycles : List (List Query)}
      {given : List Given} (more : Serves anyPhone anyProfile cycles given) :
      Serves anyPhone anyProfile (networkQueries dns hdns :: cycles)
        ((stored [dns] none).given anyPhone :: given) := by
    obtain ⟨o, ho⟩ : ∃ o, (stored [dns] none).openTun anyPhone =
        .ok ({ Service.fresh anyProfile with
          mMtu := 1500, mRemoteGW := some "255.255.255.0".toList,
          mLastTunCfg := some (stored [dns] none).getTunConfigString }, o) := ⟨_, rfl⟩
    exact .cons rfl (stored_opens [dns] none) (stored_local [dns] none) ho more
  exact hcycle _ _ (hcycle _ _ (.nil _))

/-- What OpenVPN writes for the two networks. -/
def twoNetworksText : Text :=
  (twoNetworks.flatMap (cycleLines plainWording)).flatMap (· ++ ['\n'])

/-- OpenVPN reconnects with another DNS server, in two reads; the second device is not given the
first server. -/
theorem run_cycles_twice : ∃ s' v tuns, ManagementInput.run (respond fun _ => anyMoment)
      ManagementInput.bytewise (connected, 0) []
        [Utf8.encode (twoNetworksText.take 40), Utf8.encode (twoNetworksText.drop 40)] =
      ⟨twoNetworks.flatMap (cycleLines plainWording), .ok ((s', 6), [])⟩ ∧
    Leaves connected s' v tuns (twoNetworks.flatMap answersTo) ∧ v.Unset ∧
    tuns.map Builder.given =
      [(stored ["10.8.0.1"] none).given anyPhone, (stored ["10.8.0.9"] none).given anyPhone] := by
  refine run_cycles ManagementInput.bytewise plainWording anyPhone (fun _ => anyMoment)
    (fun _ => rfl) (fun _ => rfl) rfl connected ⟨rfl, rfl, rfl, rfl, rfl, rfl⟩ twoNetworks _
    twoNetworks_served _ ?_ ?_
  · rw [List.flatten_cons, List.flatten_cons, List.flatten_nil, List.append_nil,
      ← Utf8.encode_append, List.take_append_drop]
    rfl
  · intro buffer hbuffer
    simp only [List.mem_cons, List.not_mem_nil, or_false] at hbuffer
    rcases hbuffer with rfl | rfl
    · exact ⟨_, rfl⟩
    · exact ⟨_, rfl⟩

end BuludTechVPN.Management
