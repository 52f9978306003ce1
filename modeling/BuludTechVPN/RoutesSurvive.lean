import BuludTechVPN.RouteFields
import BuludTechVPN.WrittenProfile

/-!
Routes survive an import: which lines the file of a converted profile has for them.

A route is kept as a network with its prefix length, in a text with blanks between the routes, and
its netmask is computed again when it is written.
-/

namespace BuludTechVPN.FileReading

open JavaLang LineParser ParseConfig VpnProfile ConvertProfile ImportChecks Stages

variable {fails : Prop} {k net mask : Text} {len : ℕ}

/-! ### Networks in a text -/

/-- What stands between the words of a text. -/
def isBlank (c : Char) : Bool := c = '\n' || c = ' ' || c = '\t'

/-- Of the pieces of a text only those count that are not empty. -/
lemma words_eq_filter (t : Text) : words t = (t.splitOnP isBlank).filter (· ≠ []) := by
  have hdrop : ∀ ws : List Text,
      (ws.rdropWhile List.isEmpty).filter (· ≠ []) = ws.filter (· ≠ []) := by
    intro ws
    conv_rhs => rw [← List.rdropWhile_append_rtakeWhile (p := List.isEmpty) (l := ws)]
    have hempty : (ws.rtakeWhile List.isEmpty).filter (· ≠ []) = [] := by
      rw [List.filter_eq_nil_iff]
      intro w hw
      simpa using List.mem_rtakeWhile_imp hw
    rw [List.filter_append, hempty, List.append_nil]
  show (splitAt isBlank t).filter (· ≠ []) = _
  unfold splitAt
  split_ifs with hany
  · exact hdrop _
  · rw [List.splitOnP_eq_singleton]
    simpa using hany

/-- The words of a text are those that it was put together from. -/
lemma words_flatMap {ws : List Text} (h : ∀ w ∈ ws, w ≠ [] ∧ ∀ c ∈ w, isBlank c = false) :
    words (ws.flatMap (· ++ [' '])) = ws := by
  rw [words_eq_filter]
  induction ws with
  | nil => rfl
  | cons w ws ih =>
    rw [List.forall_mem_cons] at h
    rw [List.flatMap_cons, List.append_assoc, List.singleton_append,
      List.splitOnP_append_cons_of_forall_mem h.1.2 ' ' (by decide),
      List.filter_cons_of_pos (by simpa using h.1.1), ih h.2]

/-- Digits and points, as those of a dotted quad. -/
def IsNet (net : Text) : Prop := net ≠ [] ∧ ∀ c ∈ net, Numeric c

lemma IsNet.notMem {c : Char} (h : IsNet net) (hc : ¬ Numeric c) : c ∉ net :=
  fun hm => hc (h.2 c hm)

/-- A network as it is kept. -/
def cidrText (net : Text) (len : ℕ) : Text := net ++ '/' :: showInt len

lemma cidrText_word (h : IsNet net) (len : ℕ) :
    cidrText net len ≠ [] ∧ ∀ c ∈ cidrText net len, isBlank c = false := by
  have hnumeric : ∀ c, Numeric c → isBlank c = false := by
    rintro c hc
    rw [← Bool.not_eq_true]
    intro hb
    simp only [isBlank, Bool.or_eq_true, decide_eq_true_eq] at hb
    rcases hb with (rfl | rfl) | rfl
    · exact absurd hc (by decide)
    · exact absurd hc (by decide)
    · exact absurd hc (by decide)
  refine ⟨List.append_ne_nil_of_left_ne_nil h.1 _, fun c hc => ?_⟩
  rcases List.mem_append.1 hc with hc | hc
  · exact hnumeric c (h.2 c hc)
  · rcases List.mem_cons.1 hc with rfl | hc
    · decide
    · exact hnumeric c (numeric_of_mem_showInt hc)

/-- **A netmask is computed back** from its prefix length. -/
lemma cidrToIPAndNetmask_cidrText (h : IsNet net) (hlen : len ≤ 32) :
    cidrToIPAndNetmask (cidrText net len) =
      some (net ++ "  ".toList ++ Cidr.dotted (Cidr.netmask len)) := by
  have hparts : splitAt (· = '/') (cidrText net len) = [net, showInt len] := by
    have hjoin : cidrText net len = ['/'].intercalate [net, showInt len] := by
      simp [cidrText, List.intercalate_cons_cons]
    rw [hjoin]
    refine Cidr.splitAt_intercalate ?_ (by simp)
    simp only [List.forall_mem_cons]
    exact ⟨⟨h.notMem (by decide), h.1⟩,
      ⟨other_not_mem_showInt (by decide) (by decide) _, showInt_ne_nil _⟩, by simp⟩
  have hint : parseInt (showInt len) = .ok (len : ℤ) :=
    parseSigned_showInt (by omega) (by omega)
  have hshift : ((32 : ℤ) - len).toNat = 32 - len := by omega
  unfold cidrToIPAndNetmask
  simp [hparts, hint, hlen, hshift, Cidr.netmask]

/-! ### Lines -/

variable {l gateway : List Text} {lines : List (List Text)}

/-- A netmask whose ones stand before its zeros. -/
def IsNetmask (mask : Text) : Prop := ∃ len ≤ 32, mask = Cidr.dotted (Cidr.netmask len)

def vpnGateway : Text := "vpn_gateway".toList
def netGateway : Text := "net_gateway".toList

/-- A line `route net [mask [gateway]]`. -/
inductive IsRoute : List Text → Prop
  | net {net : Text} (hn : IsNet net) : IsRoute ["route".toList, net]
  | mask {net mask : Text} (hn : IsNet net) (hm : IsNetmask mask) :
      IsRoute ["route".toList, net, mask]
  | gateway {net mask gateway : Text} (hn : IsNet net) (hm : IsNetmask mask)
      (hg : gateway = vpnGateway ∨ gateway = netGateway) :
      IsRoute ["route".toList, net, mask, gateway]

/-- The route is not through the tunnel. -/
def isExcluded (l : List Text) : Bool := routeGateway l = netGateway

lemma isExcluded_iff : isExcluded l = true ↔ routeGateway l = "net_gateway".toList :=
  decide_eq_true_iff

/-- The line that a route is written as. -/
def keptRoute (gateway : Text) (l : List Text) : List Text :=
  ["route".toList, argument l 1, routeNetmask l, gateway]

/-- The lines of the routes in the file: those through the tunnel, and behind them the others. -/
def keptRoutes (lines : List (List Text)) : List (List Text) :=
  (lines.filter fun l => !isExcluded l).map (keptRoute vpnGateway) ++
    (lines.filter fun l => isExcluded l).map (keptRoute netGateway)

lemma IsRoute.isNet (h : IsRoute l) : IsNet (argument l 1) := by
  cases h with
  | net hn => exact hn
  | mask hn _ => exact hn
  | gateway hn _ _ => exact hn

lemma IsRoute.isNetmask (h : IsRoute l) : IsNetmask (routeNetmask l) := by
  cases h with
  | net _ => exact ⟨32, le_rfl, (by decide : "255.255.255.255".toList = _)⟩
  | mask _ hm => exact hm
  | gateway _ hm _ => exact hm

/-- The network of a route, as it is kept. -/
def routeText (l : List Text) : Text :=
  match routeCidr (argument l 1) (routeNetmask l) with
  | .ok cidr => cidr.toString
  | .error _ => []

lemma IsRoute.routeCidr (h : IsRoute l) : ∃ len : ℕ, len ≤ 32 ∧
    ConvertProfile.routeCidr (argument l 1) (routeNetmask l) = .ok ⟨argument l 1, len⟩ ∧
      routeText l = cidrText (argument l 1) len ∧
      routeNetmask l = Cidr.dotted (Cidr.netmask len) := by
  obtain ⟨len, hlen, hmask⟩ := h.isNetmask
  have hcidr : ConvertProfile.routeCidr (argument l 1) (routeNetmask l) =
      .ok ⟨argument l 1, len⟩ := by
    rw [ConvertProfile.routeCidr, hmask, Cidr.ofMask_netmask _ hlen]
  refine ⟨len, hlen, hcidr, ?_, hmask⟩
  rw [routeText, hcidr]
  rfl

lemma IsRoute.addRoute (h : IsRoute l) (acc : Text × Text) :
    ConvertProfile.addRoute acc l =
      .ok (if isExcluded l then (acc.1, acc.2 ++ (routeText l ++ [' ']))
        else (acc.1 ++ (routeText l ++ [' ']), acc.2)) := by
  obtain ⟨len, -, hcidr, htext, -⟩ := h.routeCidr
  have harg : arrayGet l 1 = .ok (argument l 1) := by cases h <;> rfl
  have hshow : (⟨argument l 1, len⟩ : Cidr.CIDRIP).toString = routeText l := htext.symm
  rw [ConvertProfile.addRoute, harg]
  show (ConvertProfile.routeCidr (argument l 1) (routeNetmask l) >>= _) = _
  rw [hcidr]
  show Except.ok (if routeGateway l = "net_gateway".toList then _ else _) = _
  rw [hshow, List.append_assoc, List.append_assoc]
  by_cases he : isExcluded l = true
  · rw [if_pos he, if_pos (isExcluded_iff.1 he)]
  · rw [if_neg he, if_neg fun hg => he (isExcluded_iff.2 hg)]

/-- **The routes are gathered** in two texts, each in the order of its lines. -/
lemma foldlM_addRoute (h : ∀ l ∈ lines, IsRoute l) (acc : Text × Text) :
    lines.foldlM addRoute acc = .ok
      (acc.1 ++ (lines.filter fun l => !isExcluded l).flatMap fun l => routeText l ++ [' '],
        acc.2 ++ (lines.filter fun l => isExcluded l).flatMap fun l => routeText l ++ [' ']) := by
  induction lines generalizing acc with
  | nil => simp [pure, Except.pure]
  | cons l lines ih =>
    rw [List.forall_mem_cons] at h
    rw [List.foldlM_cons, h.1.addRoute]
    show lines.foldlM addRoute _ = _
    rw [ih h.2]
    cases he : isExcluded l with
    | true => simp [he]
    | false => simp [he]

/-- The network and the netmask of a route, as they are written. -/
def netmaskText (l : List Text) : Text := argument l 1 ++ "  ".toList ++ routeNetmask l

/-- The netmasks of the routes that were gathered. -/
lemma getCustomRoutes_flatMap (h : ∀ l ∈ lines, IsRoute l) :
    getCustomRoutes (some (lines.flatMap fun l => routeText l ++ [' '])) =
      lines.map netmaskText := by
  have hwords : words (lines.flatMap fun l => routeText l ++ [' ']) = lines.map routeText := by
    have := @words_flatMap (lines.map routeText) ?_
    · rwa [List.flatMap_map] at this
    · intro w hw
      obtain ⟨l, hl, rfl⟩ := List.mem_map.1 hw
      obtain ⟨len, -, -, htext, -⟩ := (h l hl).routeCidr
      rw [htext]
      exact cidrText_word (h l hl).isNet len
  rw [getCustomRoutes, Option.getD_some, hwords]
  clear hwords
  induction lines with
  | nil => rfl
  | cons l lines ih =>
    rw [List.forall_mem_cons] at h
    obtain ⟨len, hlen, -, htext, hmask⟩ := h.1.routeCidr
    rw [List.map_cons, netmasks, htext, cidrToIPAndNetmask_cidrText h.1.isNet hlen, hmask.symm]
    dsimp only
    rw [ih h.2, List.map_cons, netmaskText]

/-! ### The file -/

/-- **The stage of the routes** keeps them so that their netmasks are computed back. -/
lemma getCustomRoutes_route {s s' : Import} (h : route s = .ok s')
    (hl : ∀ l ∈ view s "route".toList, IsRoute l) (h1 : s.np.mCustomRoutes = none)
    (h2 : s.np.mExcludedRoutes = none) :
    getCustomRoutes s'.np.mCustomRoutes =
        ((view s "route".toList).filter fun l => !isExcluded l).map netmaskText ∧
      getCustomRoutes s'.np.mExcludedRoutes =
        ((view s "route".toList).filter fun l => isExcluded l).map netmaskText := by
  obtain ⟨-, hc⟩ := does_route s s' h
  change (if view s "route".toList = [] then _ else _) at hc
  split_ifs at hc with hnil
  · have hnone : getCustomRoutes none = [] := by decide
    rw [hc, h1, h2, hnil]
    exact ⟨hnone, hnone⟩
  · obtain ⟨r, hr, hc⟩ := hc
    obtain rfl := Except.ok.inj ((foldlM_addRoute hl ([], [])).symm.trans hr)
    rw [hc]
    exact ⟨getCustomRoutes_flatMap fun l hm => hl l (List.mem_filter.1 hm).1,
      getCustomRoutes_flatMap fun l hm => hl l (List.mem_filter.1 hm).1⟩

lemma says_routeLine {gateway : Text} (h : IsRoute l)
    (hg : gateway = vpnGateway ∨ gateway = netGateway) :
    Says fails "route".toList [keptRoute gateway l]
      ("route ".toList ++ netmaskText l ++ ' ' :: gateway ++ ['\n']) := by
  have hnet := h.isNet
  obtain ⟨len, hlen, hmask⟩ := h.isNetmask
  have hword : IsWord (argument l 1) := isWord_of_numeric hnet.1 hnet.2
  have hmask' : IsWord (routeNetmask l) := by
    rw [hmask]
    exact isWord_of_numeric (by simp [Cidr.dotted]) numeric_of_mem_dotted
  have hgateway : IsWord gateway ∧ IsLine gateway := by
    rcases hg with rfl | rfl
    · decide
    · decide
  have hrest : IsLine (argument l 1 ++ ' ' :: ' ' :: (routeNetmask l ++ ' ' :: gateway)) := by
    simp only [isLine_append, isLine_cons]
    exact ⟨isLine_of_isWord hword, by decide, by decide, by decide, by decide,
      isLine_of_isWord hmask', by decide, by decide, hgateway.2⟩
  have hscan : scan (between ["route".toList])
      (argument l 1 ++ ' ' :: ' ' :: (routeNetmask l ++ ' ' :: gateway) ++ ['\x00']) =
        .ok (keptRoute gateway l) := by
    simp only [List.append_assoc, List.cons_append]
    rw [scan_word hword (by decide), scan_blank (by decide), scan_word hmask' (by decide),
      scan_word hgateway.1 (by decide)]
    rfl
  have hname : IsName "route".toList := by decide
  have hread : Says fails "route".toList _ _ := says_args hname.opens hrest hscan
  rw [if_pos (by decide)] at hread
  have htext : "route ".toList ++ netmaskText l ++ ' ' :: gateway ++ ['\n'] = "route".toList ++ ' ' ::
      (argument l 1 ++ ' ' :: ' ' :: (routeNetmask l ++ ' ' :: gateway)) ++ ['\n'] := by
    simp [netmaskText]
  rw [htext]
  exact hread

/-- The routes of the file, where there is no route for everything. -/
lemma says_keptRoutes {np : VpnProfile} (hl : ∀ l ∈ lines, IsRoute l)
    (hd : np.mUseDefaultRoute = false)
    (h1 : getCustomRoutes np.mCustomRoutes =
      (lines.filter fun l => !isExcluded l).map netmaskText)
    (h2 : getCustomRoutes np.mExcludedRoutes =
      (lines.filter fun l => isExcluded l).map netmaskText) :
    Says fails "route".toList (keptRoutes lines) (ipv4RouteLines np).flatten := by
  have hmem : ∀ {q : List Text → Bool}, ∀ l ∈ lines.filter q, IsRoute l :=
    fun l hm => hl l (List.mem_filter.1 hm).1
  have hvpn : " vpn_gateway\n".toList = ' ' :: vpnGateway ++ ['\n'] := by decide
  have hnet : " net_gateway\n".toList = ' ' :: netGateway ++ ['\n'] := by decide
  unfold ipv4RouteLines
  rw [if_neg (by rw [hd]; decide), h1, h2, List.map_map, List.map_map, List.flatten_append]
  refine Says.append (Says.map fun l hm => ?_) (Says.map fun l hm => ?_)
  · rw [Function.comp_apply, hvpn, ← List.append_assoc]
    exact says_routeLine (hmem l hm) (.inl rfl)
  · rw [Function.comp_apply, hnet, ← List.append_assoc]
    exact says_routeLine (hmem l hm) (.inr rfl)

/-! ### Imports -/

variable {orders : ℕ → KeyOrder Text} {pf : Platform} {p : ConfigParser}

/-- The file of the converted profile is written and read, and the lines of its routes are those
of the routes of the configuration. -/
def RoutesSurvive (orders : ℕ → KeyOrder Text) (pf : Platform) (p : ConfigParser) : Prop :=
  ∀ s, convertProfile orders p = .ok s → ∃ t q, s.np.getConfigFile pf = .ok t ∧
    parseConfig t = .ok q ∧ q.options.get "route".toList = keptRoutes (p.options.get "route".toList)

/-- What is stored of the configuration is written in such a way that it is read back, and what
the device contributes too. Where `fails` holds, the reader may refuse it instead. -/
structure WritesBack (fails : Prop) (pf : Platform) (o : Lines) : Prop where
  options : OptionsFit fails o
  outside : OutsideBlocks "route".toList o
  names : o "remote".toList = [] → o "connection".toList = [] →
    ∀ name ∈ ["tls-remote".toList, "verify-x509-name".toList],
      ∀ l ∈ (o name).getLast?, IsRealName (argument l 1)
  platform : PlatformFits fails "route".toList pf
  ready : Platform.Ready pf

/-- The file of a converted profile is written, and says of routes what its IPv4 routes say. -/
lemma says_written {text : Text} {s : Import} {lines : List (List Text)}
    (hp : parseConfig text = .ok p) (h : WritesBack fails pf p.options.get)
    (hs : convertProfile orders p = .ok s)
    (hroutes : Says fails "route".toList lines (ipv4RouteLines s.np).flatten) :
    ∃ t, s.np.getConfigFile pf = .ok t ∧ Unmarked t ∧ Says fails "route".toList lines t := by
  obtain ⟨⟨n, hc⟩, hrefs⟩ := hasName_of_convert hp h.options h.names hs
  obtain ⟨t, ht⟩ := getConfigFile_returns h.ready hrefs
  obtain ⟨crl, rest, hcustom⟩ := hc.custom
  have hread : Says fails "route".toList [] s.np.customLines.flatten :=
    hcustom.says_nil (by decide +kernel) (by decide) (by decide)
  obtain ⟨hfile, hunmarked⟩ := hc.says_file h.options.toConnectionsFit (by decide +kernel)
    h.outside h.platform hroutes hread ht
  rw [List.append_nil] at hfile
  exact ⟨t, ht, hunmarked, hfile⟩

section Written

variable {text : Text} {s : Import} (hp : parseConfig text = .ok p)
variable (hr : p.options.get "redirect-gateway".toList = [])
variable (hl : ∀ l ∈ p.options.get "route".toList, IsRoute l)

include hp hr hl

/-- The file is written, and says just what the routes do. -/
lemma says_routes (h : WritesBack fails pf p.options.get) (hs : convertProfile orders p = .ok s) :
    ∃ t, s.np.getConfigFile pf = .ok t ∧ Unmarked t ∧
      Says fails "route".toList (keptRoutes (p.options.get "route".toList)) t := by
  obtain ⟨s₁, s₂, hview, h1, h2, hroute, hcustom, hexcluded, hd⟩ := routes_of_convert hs
  obtain ⟨hvpn, hnet⟩ := getCustomRoutes_route hroute (hview.symm ▸ hl) h1 h2
  refine says_written hp h hs (says_keptRoutes hl ?_ ?_ ?_)
  · exact Bool.eq_false_iff.2 fun hdefault => (hd.1 hdefault).1 hr
  · rw [hcustom, ← hview]
    exact hvpn
  · rw [hexcluded, ← hview]
    exact hnet

/-- **No route is lost in a file that is read**: where the values are but lines, the routes survive
exactly if the reader accepts the file. -/
theorem routes_survive_iff_read (h : WritesBack True pf p.options.get) :
    RoutesSurvive orders pf p ↔ ∀ s, convertProfile orders p = .ok s →
      ∃ t q, s.np.getConfigFile pf = .ok t ∧ parseConfig t = .ok q := by
  refine forall₂_congr fun s hs => ?_
  constructor
  · rintro ⟨t, q, ht, hq, -⟩
    exact ⟨t, q, ht, hq⟩
  · rintro ⟨t, q, ht, hq⟩
    obtain ⟨t', ht', hunmarked, hfile⟩ := says_routes hp hr hl h hs
    obtain rfl := Except.ok.inj (ht'.symm.trans ht)
    exact ⟨t', q, ht, hq, hfile.of_parseConfig hunmarked hq⟩

end Written

lemma IsNet.spaced (h : IsNet net) : Spaced fails net :=
  ⟨h.notMem (by decide), .inr (h.notMem (by decide))⟩

/-- The configuration of a server with two routes, one of them past the tunnel. -/
def twoRoutes : Text :=
  ("remote vpn.example.com 1194\nroute 192.168.1.1 255.255.255.255 net_gateway\n" ++
    "route 10.8.0.0 255.255.0.0\n").toList

def twoRoutesParser : ConfigParser where
  options := [entry "remote".toList ["vpn.example.com".toList, "1194".toList],
    entry "route".toList ["192.168.1.1".toList, "255.255.255.255".toList, netGateway],
    entry "route".toList ["10.8.0.0".toList, "255.255.0.0".toList]]
  metaOptions := []

/-- A cipher in two lines, the second of which looks like a route. -/
def routeInCipher : Text :=
  "remote vpn.example.com\n<cipher>\nAES\nroute 10.9.9.9\n</cipher>\n".toList

def routeInCipherParser : ConfigParser where
  options := [entry "remote".toList ["vpn.example.com".toList],
    entry "cipher".toList ["[[INLINE]]AES\nroute 10.9.9.9".toList]]
  metaOptions := []

end BuludTechVPN.FileReading
