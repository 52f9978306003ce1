import BuludTechVPN.CheckFields
import BuludTechVPN.KeptOptions

/-!
Checks of the server survive an import: the name and the purpose of its certificate, and the lists
of revoked certificates.

Files that are not embedded are gone after an import, and text stands in the file only if there is
something left of the options.
-/

namespace BuludTechVPN.VpnProfile

open JavaLang

/-- `embedFile`: only what is embedded is kept. -/
def embedFile (filename : Option Text) : Option Text := filename.filter isEmbedded

/-- `embedFiles`, as to the profile. -/
def embedFiles (np : VpnProfile) : VpnProfile := { np with
  mCaFilename := embedFile np.mCaFilename
  mClientCertFilename := embedFile np.mClientCertFilename
  mClientKeyFilename := embedFile np.mClientKeyFilename
  mTLSAuthFilename := embedFile np.mTLSAuthFilename
  mPKCS12Filename := embedFile np.mPKCS12Filename
  mCrlFilename := embedFile np.mCrlFilename }

end BuludTechVPN.VpnProfile

namespace BuludTechVPN.FileReading

open JavaLang LineParser ParseConfig VpnProfile ConvertProfile ImportChecks Stages

variable {fails : Prop} {k name : Text} {n : Notes} {order : KeyOrder Text} {o : Options}
variable {np : VpnProfile} {pf : Platform} {orders : ℕ → KeyOrder Text} {p : ConfigParser}
variable {s : Import} {text : Text}

/-! ### Checks -/

/-- The name of the server is checked, in the way of the type. -/
def ChecksName (o : Lines) (name : Text) (type : X509Verify) : Prop :=
  ∃ l ∈ (o "verify-x509-name".toList).getLast?, argument l 1 = name ∧ x509Type l[2]? = .ok type

/-- The certificate has to be that of a server. -/
def ChecksPurpose (o : Lines) : Prop :=
  ∃ l ∈ o "remote-cert-tls".toList, argument l 1 = "server".toList

/-- Certificates that were revoked are refused. -/
def ChecksRevoked (o : Lines) : Prop := o "crl-verify".toList ≠ []

/-- What is checked of one configuration is checked of the other. -/
structure ChecksKept (o o' : Lines) : Prop where
  name : ∀ name type, ChecksName o name type → ChecksName o' name type
  purpose : ChecksPurpose o → ChecksPurpose o'
  revoked : ChecksRevoked o → ChecksRevoked o'

/-- The file of the profile is written and read, and checks the server as the configuration. -/
def KeepsChecks (pf : Platform) (o : Lines) (np : VpnProfile) : Prop :=
  ∃ t q, np.embedFiles.getConfigFile pf = .ok t ∧ parseConfig t = .ok q ∧
    ChecksKept o q.options.get

/-! ### Embedded files -/

lemma FileFits.embedFile {tag : Text} {file : Option Text} (h : FileFits fails tag file) :
    FileFits fails tag (embedFile file) := by
  cases file with
  | none => trivial
  | some data =>
    unfold VpnProfile.embedFile
    by_cases he : isEmbedded data = true
    · rwa [Option.filter_some_pos he]
    · rw [Option.filter_some_neg (by simpa using he)]
      trivial

lemma ProfileFits.embedFiles (h : ProfileFits fails np) : ProfileFits fails np.embedFiles :=
  { h with
    mCaFilename := h.mCaFilename.embedFile
    mClientKeyFilename := h.mClientKeyFilename.embedFile
    mClientCertFilename := h.mClientCertFilename.embedFile
    mPKCS12Filename := h.mPKCS12Filename.embedFile
    mCrlFilename := h.mCrlFilename.embedFile
    mTLSAuthFilename := fun tag ht => (h.mTLSAuthFilename tag ht).embedFile }

lemma CustomText.embedFiles {crl : Text} {rest : Options}
    (h : CustomText fails order o np crl rest) :
    CustomText fails order o np.embedFiles crl rest := { h with }

lemma Converted.embedFiles (h : Converted fails n order o np) :
    Converted fails n order o np.embedFiles := by
  obtain ⟨crl, rest, hc⟩ := h.custom
  exact { h with
    profile := h.profile.embedFiles
    custom := ⟨crl, rest, hc.embedFiles⟩ }

/-! ### Sections -/

/-- The options that check the server. -/
def checkNames : List Text :=
  ["verify-x509-name", "remote-cert-tls", "crl-verify"].map String.toList

/-- **What the file says of a check** is said by a sole connection, the keys, the peer, and the
custom options. -/
theorem Converted.says_check {sole keys peer custom : List (List Text)} {t : Text}
    (h : Converted False n order o np) (ho : ConnectionsFit False o.get)
    (hpf : PlatformFits False k pf)
    (hk : k ∈ checkNames) (hsole : Says False k sole (soleCustomLines np))
    (hkeys : Says False k keys np.keyLines.flatten)
    (hpeer : ∀ lines, np.peerLines = .ok lines → Says False k peer lines.flatten)
    (hcustom : Says False k custom np.customLines.flatten) (ht : np.getConfigFile pf = .ok t) :
    Says False k (sole ++ keys ++ peer ++ custom) t ∧ Unmarked t := by
  have hfree : ∀ k ∈ checkNames, k ∉ fixedNames ∧ k ∉ remotesNames ∧ k ≠ "route".toList ∧
      k ≠ "connection".toList := by decide +kernel
  obtain ⟨hfixed, hremotes, hroute, hconnection⟩ := hfree k hk
  have := says_getConfigFile hfixed hpf h.profile (says_remoteLines hremotes h.profile hsole) hkeys
    (says_ipv4RouteLines hroute h.profile) hpeer hcustom
    (Says.flatten (says_blockLines hconnection (h.blocksFit ho))) ht
  simpa only [List.append_nil] using this

/-! ### The name -/

/-- The third word of the line that checks a name, if there has to be one. -/
def typeWords : X509Verify → List Text
  | .tlsremoteRdn => ["name".toList]
  | .tlsremoteRdnPrefix => ["name-prefix".toList]
  | _ => []

lemma x509Type_typeWords {word : Option Text} {type : X509Verify} (h : x509Type word = .ok type) :
    x509Type (typeWords type).head? = .ok type ∧ type ≠ .tlsremote ∧
      type ≠ .tlsremoteCompatNoremapping := by
  unfold x509Type at h
  split at h
  · obtain rfl := Except.ok.inj h
    decide
  · split_ifs at h
    · obtain rfl := Except.ok.inj h
      decide
    · obtain rfl := Except.ok.inj h
      decide
    · obtain rfl := Except.ok.inj h
      decide

/-- The line that checks a name. -/
def nameLine (name : Text) (type : X509Verify) : List Text :=
  "verify-x509-name".toList :: name :: typeWords type

/-- What is written behind the name. -/
def typeText (type : X509Verify) : Text := (typeWords type).flatMap (' ' :: ·)

lemma scan_name (h : Survives name) (type : X509Verify) :
    scan (between ["verify-x509-name".toList])
      (openVpnEscape name ++ typeText type ++ ['\x00']) = .ok (nameLine name type) := by
  have hnone : scan (between ["verify-x509-name".toList]) (openVpnEscape name ++ ['\x00']) =
      .ok ["verify-x509-name".toList, name] := scan_lastEscape h
  have hword : ∀ word, IsWord word →
      scan (between ["verify-x509-name".toList]) (openVpnEscape name ++ ' ' :: word ++ ['\x00']) =
        .ok ["verify-x509-name".toList, name, word] := by
    intro word hw
    rw [List.append_assoc, List.cons_append, scan_escape h (by decide), scan_word hw (by decide)]
    rfl
  have hempty : openVpnEscape name ++ [] ++ ['\x00'] = openVpnEscape name ++ ['\x00'] := by
    rw [List.append_nil]
  cases type with
  | tlsremote | tlsremoteCompatNoremapping | tlsremoteDn => exact (congrArg _ hempty).trans hnone
  | tlsremoteRdn => exact hword "name".toList (by decide)
  | tlsremoteRdnPrefix => exact hword "name-prefix".toList (by decide)

/-- **The line that checks a name** is read back. -/
theorem says_nameLine (h : Survives name) (hr : '\r' ∉ name) (type : X509Verify) :
    Says False "verify-x509-name".toList [nameLine name type]
      ("verify-x509-name ".toList ++ openVpnEscape name ++ typeText type ++ ['\n']) := by
  have hname : IsName "verify-x509-name".toList := by decide
  have hquoted : Quoted False name := ⟨hr, .inr (newline_notMem_of_survives h)⟩
  have htype : IsLine (typeText type) := by
    cases type <;> decide
  have hsays : Says False "verify-x509-name".toList _ _ := says_args hname.opens
    (isLine_append.2 ⟨(Quoted.behind hquoted).1, htype⟩) (scan_name h type)
  rw [if_pos (by decide)] at hsays
  simpa [nameLine] using hsays

/-- The name that the file checks, and in which way. -/
def writtenName (np : VpnProfile) : Option (Text × X509Verify) :=
  if np.mRemoteCN = [] then np.mConnections.head?.map fun c => (c.mServerName, .tlsremoteRdn)
  else some (np.mRemoteCN, np.mX509AuthType)

lemma nameLines_eq {type : X509Verify} (h : writtenName np = some (name, type))
    (ht : type ≠ .tlsremote ∧ type ≠ .tlsremoteCompatNoremapping) {lines : List Text}
    (hl : np.nameLines = .ok lines) :
    lines = ["verify-x509-name ".toList ++ openVpnEscape name ++ typeText type ++ ['\n']] := by
  have hrdn : ∀ t : Text, t ++ " name\n".toList = t ++ typeText .tlsremoteRdn ++ ['\n'] := by
    intro t
    rw [List.append_assoc]
    congr
  have hopening : ∀ t : Text,
      t ++ " name-prefix\n".toList = t ++ typeText .tlsremoteRdnPrefix ++ ['\n'] := by
    intro t
    rw [List.append_assoc]
    congr
  have hdn : ∀ t : Text, t ++ ['\n'] = t ++ typeText .tlsremoteDn ++ ['\n'] := by
    intro t
    rw [List.append_assoc]
    congr
  unfold writtenName at h
  unfold nameLines at hl
  split_ifs at h hl
  · obtain ⟨conn, hconn, hl⟩ := bind_eq_ok.1 hl
    obtain rfl := Except.ok.inj hl
    have hhead : np.mConnections.head? = some conn := by
      unfold arrayGet at hconn
      split at hconn
      · next c hc =>
        obtain rfl := Except.ok.inj hconn
        rw [List.head?_eq_getElem?]
        exact hc
      · cases hconn
    rw [hhead] at h
    obtain ⟨rfl, rfl⟩ := Prod.mk.inj (Option.some.inj h)
    rw [hrdn]
  · obtain ⟨rfl, rfl⟩ := Prod.mk.inj (Option.some.inj h)
    obtain rfl := Except.ok.inj hl
    cases hx : np.mX509AuthType with
    | tlsremote => exact absurd hx ht.1
    | tlsremoteCompatNoremapping => exact absurd hx ht.2
    | tlsremoteRdn => exact congrArg (fun t => [t]) (hrdn _)
    | tlsremoteRdnPrefix => exact congrArg (fun t => [t]) (hopening _)
    | tlsremoteDn => exact congrArg (fun t => [t]) (hdn _)

/-- Behind the line of the name the section of the peer is about other options. -/
lemma peerLines_eq (ht : IsTls np) {lines : List Text} (hl : np.peerLines = .ok lines) :
    ∃ names, lines = names ++ piece np.mExpectTLSCert "remote-cert-tls server\n".toList ∧
      (np.mCheckRemoteCN = true → ∃ first, np.nameLines = .ok first ∧
        names = first ++ np.usernameFieldLine) ∧ (np.mCheckRemoteCN = false → names = []) := by
  unfold peerLines at hl
  rw [if_neg ht] at hl
  split_ifs at hl with hc
  · obtain ⟨first, hfirst, hl⟩ := bind_eq_ok.1 hl
    obtain rfl := Except.ok.inj hl
    exact ⟨_, rfl, fun _ => ⟨first, hfirst, rfl⟩,
      fun hoff => absurd (hc.symm.trans hoff) (by decide)⟩
  · obtain rfl := Except.ok.inj hl
    exact ⟨[], rfl, fun h => absurd h hc, fun _ => rfl⟩

lemma says_usernameFieldLine (hk : k ≠ "x509-username-field".toList) (hp : ProfileFits fails np) :
    Says fails k [] np.usernameFieldLine.flatten := by
  refine Says.flatten fun t ht => ?_
  obtain ⟨f, hf, rfl⟩ := Option.map_eq_some_iff.1 (Option.mem_toList.1 ht)
  have hframes : Frames ["x509-username-field".toList] "x509-username-field ".toList ['\n'] := by
    decide
  exact says_framed hframes (by simpa using hk)
    (hp.mx509UsernameField f (Option.filter_eq_some_iff.1 hf).1).behind

/-- **The name** that the section of the peer checks. -/
theorem says_checkedName {type : X509Verify} (hp : ProfileFits False np) (htls : IsTls np)
    (hc : np.mCheckRemoteCN = true) (hw : writtenName np = some (name, type))
    (ht : type ≠ .tlsremote ∧ type ≠ .tlsremoteCompatNoremapping) (hs : Survives name)
    (hr : '\r' ∉ name) {lines : List Text} (hl : np.peerLines = .ok lines) :
    Says False "verify-x509-name".toList [nameLine name type] lines.flatten := by
  obtain ⟨names, rfl, hnames, -⟩ := peerLines_eq htls hl
  obtain ⟨first, hfirst, rfl⟩ := hnames hc
  have hname : Says False "verify-x509-name".toList [nameLine name type] first.flatten := by
    rw [nameLines_eq hw ht hfirst, List.flatten_singleton]
    exact says_nameLine hs hr type
  have hcert : Says False "verify-x509-name".toList []
      (piece np.mExpectTLSCert "remote-cert-tls server\n".toList).flatten :=
    Says.flatten fun t ht => (mem_piece.1 ht).2 ▸
      says_known (by decide : isAbout ["remote-cert-tls".toList] _) (by decide)
  rw [List.flatten_append, List.flatten_append]
  exact (hname.nil_append (says_usernameFieldLine (by decide) hp)).nil_append hcert

/-! ### Revoked certificates -/

lemma embedFile_eq_some {file : Option Text} {f : Text} :
    embedFile file = some f ↔ file = some f ∧ isEmbedded f = true := Option.filter_eq_some_iff

/-- The keys have a line for the file of revoked certificates if it is embedded. -/
lemma says_crlFile {file : Option Text} (hp : ProfileFits False np)
    (hfile : np.mCrlFilename = embedFile file) :
    ∃ lines, Says False "crl-verify".toList lines np.keyLines.flatten ∧
      (lines ≠ [] ↔ ∃ f ∈ file, isEmbedded f = true) := by
  have hlzo : Says False "crl-verify".toList [] (piece np.mUseLzo "comp-lzo\n".toList).flatten :=
    Says.flatten fun t ht => (mem_piece.1 ht).2 ▸
      says_known (by decide : isAbout ["comp-lzo".toList] _) (by decide)
  have htls : Says False "crl-verify".toList [] np.tlsAuthLines.flatten :=
    Says.flatten (says_tlsAuthLines (by decide) hp)
  have hrest := hlzo.append_nil htls
  unfold keyLines
  rw [List.flatten_append, List.flatten_append, List.append_assoc]
  cases hf : np.mCrlFilename with
  | none =>
    refine ⟨[], hrest, iff_of_false (fun h => h rfl) ?_⟩
    rintro ⟨f, hm, he⟩
    have hsome : np.mCrlFilename = some f := hfile.trans (embedFile_eq_some.2 ⟨hm, he⟩)
    rw [hf] at hsome
    cases hsome
  | some f =>
    obtain ⟨hm, he⟩ := embedFile_eq_some.1 (hfile.symm.trans hf)
    have hne : f ≠ [] := by
      rintro rfl
      cases he
    have hfits : FileFits False "crl-verify".toList (some f) := hf ▸ hp.mCrlFilename
    unfold FileFits at hfits
    dsimp only at hfits
    rw [if_pos he] at hfits
    have hblock : Says False "crl-verify".toList _ (inlineBlock _ _) :=
      says_inlineBlock (by decide) hfits.1 hfits.2
    rw [if_pos (by decide)] at hblock
    refine ⟨[["crl-verify".toList, inlineTag ++ getEmbeddedContent f]], ?_,
      iff_of_true (List.cons_ne_nil _ _) ⟨f, hm, he⟩⟩
    rw [piece, if_pos (by simpa using hne), List.flatten_singleton, insertFileData, if_pos he]
    exact hblock.nil_append hrest

/-- A line of the directory of revocation lists is read, if its path can be. -/
lemma says_directoryLine {l : List Text} (hhead : ∃ args, l = "crl-verify".toList :: args)
    (hlen : l.length ≤ 3) (hd : isDirectory l = true) (ha : Raw False (argument l 1)) :
    ∃ args, Says False "crl-verify".toList ["crl-verify".toList :: args]
      (join [' '] l ++ ['\n']) := by
  have hname : IsName "crl-verify".toList := by decide
  have hrest : Behind False _ := behind_crlDirectory ha
  obtain ⟨args, hread⟩ : ∃ args, Says False "crl-verify".toList _ _ :=
    says_paired hname.opens hrest.1 (hrest.2.resolve_left id)
  rw [if_pos (by decide), ← join_crlDirectory hhead hlen (of_decide_eq_true hd)] at hread
  exact ⟨args, hread⟩

/-- The custom options have a line for the directory of revocation lists if there is one, and
something is left of the options. -/
lemma says_crlCustom {crl : Text} {rest : Options} (h : CustomText False order o np crl rest)
    (htext : np.mCustomConfigOptions = customText order (crlDirectory o.get) rest)
    (hused : np.mUseCustomConfig = decide (rest ≠ []))
    (hline : ∀ l ∈ (o.get "crl-verify".toList).getLast?, isDirectory l = true →
      ∃ args, Says False "crl-verify".toList ["crl-verify".toList :: args]
        (join [' '] l ++ ['\n'])) :
    ∃ lines, Says False "crl-verify".toList lines np.customLines.flatten ∧
      (lines ≠ [] ↔ (∃ l ∈ (o.get "crl-verify".toList).getLast?, isDirectory l = true) ∧
        rest ≠ []) := by
  by_cases hrest : rest = []
  · refine ⟨[], says_customLines (fun hu => ?_) fun _ => rfl, ?_⟩
    · rw [hused, decide_eq_false (not_not.2 hrest)] at hu
      cases hu
    · exact iff_of_false (fun hn => hn rfl) fun hn => hn.2 hrest
  · have hdirectory : ∃ lines, Says False "crl-verify".toList lines (crlDirectory o.get) ∧
        (lines ≠ [] ↔ ∃ l ∈ (o.get "crl-verify".toList).getLast?, isDirectory l = true) := by
      unfold crlDirectory
      cases hl : (o.get "crl-verify".toList).getLast? with
      | none => exact ⟨[], .nil, by simp⟩
      | some l =>
        by_cases hd : isDirectory l = true
        · obtain ⟨args, hread⟩ := hline l hl hd
          rw [Option.filter_some_pos hd]
          exact ⟨_, hread, iff_of_true (List.cons_ne_nil _ _) ⟨l, rfl, hd⟩⟩
        · rw [Option.filter_some_neg (by simpa using hd)]
          exact ⟨[], .nil, by simpa using hd⟩
    obtain ⟨lines, hread, hlines⟩ := hdirectory
    refine ⟨lines, says_customLines (fun _ => ?_) fun hu => ?_, ?_⟩
    · rw [htext, customText, if_neg hrest]
      exact (says_customHeader.append_nil hread).nil_append
        (h.says_left (by decide +kernel) (by decide))
    · rw [hused, decide_eq_true hrest] at hu
      cases hu
    · rw [hlines, and_iff_left hrest]

/-! ### Imports -/

/-- A configuration of a TLS client that has each check once, and is read back as it is written. -/
structure Importable (pf : Platform) (o : Lines) : Prop where
  secret : o "secret".toList = []
  once : ∀ k ∈ checkNames, (o k).length ≤ 1 ∧ (o k ≠ [] → OutsideBlocks k o)
  options : OptionsFit False o
  name : ∀ name ∈ lastArgument o "verify-x509-name".toList, Survives name
  server : ∀ name ∈ (serverNames o).head?, Survives name
  platform : ∀ k, PlatformFits False k pf
  ready : Platform.Ready pf

/-- What the checks need to be kept. -/
structure ChecksSurvive (o : Lines) : Prop where
  written : serverNames o = [] → ∀ name ∈ checkedName o, IsRealName name
  name : ∀ l ∈ (o "verify-x509-name".toList).getLast?, IsRealName (argument l 1) ∨
    (x509Type l[2]? = .ok .tlsremoteRdn ∧ (serverNames o).head? = some (argument l 1))
  revoked : ∀ l ∈ (o "crl-verify".toList).getLast?,
    if isDirectory l = true then LeftOver o else isEmbedded (argument l 1) = true

/-- **The name that is written** is that of the configuration, or that of its first server. -/
theorem writtenName_of_convert (hs : convertProfile orders p = .ok s) :
    s.np.mCheckRemoteCN = (checkedName p.options.get).isSome ∧
      (∀ name ∈ checkedName p.options.get, s.np.mRemoteCN = [] ↔ ¬ IsRealName name) ∧
      ∀ l ∈ (p.options.get "verify-x509-name".toList).getLast?, ∃ type,
        x509Type l[2]? = .ok type ∧
        (IsRealName (argument l 1) → writtenName s.np = some (argument l 1, type)) ∧
        (¬ IsRealName (argument l 1) → writtenName s.np =
          (serverNames p.options.get).head?.map fun server => (server, .tlsremoteRdn)) := by
  obtain ⟨np, hfields, hcheck, htype, hcn⟩ := name_of_convert hs
  have hempty : ∀ name ∈ checkedName p.options.get, s.np.mRemoteCN = [] ↔ ¬ IsRealName name := by
    intro name hname
    rw [hcn, hfields.mRemoteCN name hname, IsRealName]
    split_ifs with hunknown
    · exact iff_of_true rfl fun hreal => hreal.2 hunknown
    · rw [and_iff_left hunknown, not_not]
  refine ⟨hcheck.trans hfields.mCheckRemoteCN, hempty, fun l hl => ?_⟩
  have hname : argument l 1 ∈ checkedName p.options.get := by
    rw [checkedName, lastArgument, Option.mem_def.1 hl]
    rfl
  refine ⟨_, hfields.mX509AuthType l hl, fun hreal => ?_, fun hreal => ?_⟩
  · have hne : s.np.mRemoteCN ≠ [] := fun h => (hempty _ hname).1 h hreal
    have hkept : s.np.mRemoteCN = argument l 1 := by
      rw [hcn, hfields.mRemoteCN _ hname, if_neg hreal.2]
    rw [writtenName, if_neg hne, hkept, htype]
  · rw [writtenName, if_pos ((hempty _ hname).2 hreal), ← mServerName_of_convert hs, List.head?_map,
      Option.map_map]
    rfl

lemma getConfigFile_returns_iff (hpf : Platform.Ready pf) (ht : IsTls np) :
    (∃ t, np.getConfigFile pf = .ok t) ↔
      (np.mCheckRemoteCN = true → np.mRemoteCN ≠ [] ∨ np.mConnections ≠ []) := by
  refine ⟨fun h hc => ?_, getConfigFile_returns hpf⟩
  obtain ⟨t, h⟩ := h
  obtain ⟨pieces, h, -⟩ := getConfigFile_ok.1 h
  obtain ⟨authentication, -, h⟩ := bind_eq_ok.1 h
  obtain ⟨peer, hpeer, -⟩ := bind_eq_ok.1 h
  obtain ⟨names, -, hnames, -⟩ := peerLines_eq ht hpeer
  obtain ⟨first, hfirst, -⟩ := hnames hc
  by_cases hcn : np.mRemoteCN = []
  · refine .inr fun hnil => ?_
    rw [nameLines, if_pos hcn, hnil] at hfirst
    cases hfirst
  · exact .inl hcn

variable {t : Text} {q : ConfigParser}

/-- What the conversion of such a configuration makes of it. -/
structure Imported (pf : Platform) (orders : ℕ → KeyOrder Text) (p : ConfigParser) (s : Import) :
    Prop where
  convert : convertProfile orders p = .ok s
  importable : Importable pf p.options.get
  keyed : Keyed p.options.get
  converted : ∃ n, Converted False n (orders 0) p.options s.np.embedFiles
  custom : ∃ crl, CustomText False (orders 0) p.options s.np.embedFiles crl s.options
  tls : IsTls s.np

lemma imported (hp : parseConfig text = .ok p) (h : Importable pf p.options.get)
    (hs : convertProfile orders p = .ok s) : Imported pf orders p s := by
  let n : Notes := ⟨none, none, True, False⟩
  have hn : Noted n p.options.get := ⟨fun _ => trivial, fun hn => hn.elim⟩
  obtain ⟨s₁, s₂, -, -, -, -, hc, crl, hcustom⟩ :=
    converted h.options hn (keyed_of_parseConfig hp) hs
  exact ⟨hs, h, keyed_of_parseConfig hp, ⟨_, hc.embedFiles⟩, ⟨crl, hcustom.embedFiles⟩,
    isTls_of_convert h.secret hs⟩

/-- The file is written if there is a name to check, or a server. -/
lemma Imported.returns_iff (h : Imported pf orders p s) :
    (∃ t, s.np.embedFiles.getConfigFile pf = .ok t) ↔
      (serverNames p.options.get = [] → ∀ name ∈ checkedName p.options.get, IsRealName name) := by
  obtain ⟨hcheck, hempty, -⟩ := writtenName_of_convert h.convert
  have hnone : s.np.mConnections = [] ↔ serverNames p.options.get = [] := by
    rw [← mServerName_of_convert h.convert, List.map_eq_nil_iff]
  have htls : IsTls s.np.embedFiles := h.tls
  refine (getConfigFile_returns_iff h.importable.ready htls).trans ?_
  change (s.np.mCheckRemoteCN = true → s.np.mRemoteCN ≠ [] ∨ s.np.mConnections ≠ []) ↔ _
  rw [hcheck, Ne, Ne, hnone]
  cases hname : checkedName p.options.get with
  | none => simp
  | some name =>
    rw [hempty name hname]
    simp only [Option.isSome_some, true_implies, not_not, Option.mem_def, Option.some.injEq,
      forall_eq']
    tauto

lemma Imported.reads_sole (h : Imported pf orders p s) :
    ∃ sole, Says False k sole (soleCustomLines s.np.embedFiles) := by
  obtain ⟨n, hc⟩ := h.converted
  exact (hc.reads_sole h.importable.options.toConnectionsFit).about k

/-- The file checks the name that is written. -/
lemma Imported.checksName_iff {type type' : X509Verify} {name' : Text} (h : Imported pf orders p s)
    (ht : s.np.embedFiles.getConfigFile pf = .ok t) (hq : parseConfig t = .ok q)
    (hon : s.np.mCheckRemoteCN = true) (hw : writtenName s.np = some (name, type))
    (htype : type ≠ .tlsremote ∧ type ≠ .tlsremoteCompatNoremapping) (hs : Survives name)
    (hr : '\r' ∉ name) : ChecksName q.options.get name' type' ↔
      name = name' ∧ x509Type (typeWords type).head? = .ok type' := by
  obtain ⟨n, hc⟩ := h.converted
  obtain ⟨crl, hcustom⟩ := h.custom
  obtain ⟨sole, hsole⟩ := h.reads_sole (k := "verify-x509-name".toList)
  obtain ⟨hfile, hunmarked⟩ := hc.says_check h.importable.options.toConnectionsFit
    (h.importable.platform _) (by decide) hsole
    (Says.flatten (says_keyLines (by decide) hc.profile))
    (fun lines hl => says_checkedName hc.profile h.tls hon hw htype hs hr hl)
    (hcustom.says_nil (by decide +kernel) (by decide) (by decide)) ht
  have hget : (q.options.get "verify-x509-name".toList).getLast? = some (nameLine name type) := by
    rw [hfile.of_parseConfig hunmarked hq, List.append_nil, List.append_nil, List.getLast?_concat]
  rw [ChecksName, hget, List.head?_eq_getElem?]
  simp only [Option.mem_def, Option.some.injEq, exists_eq_left']
  rfl

lemma Imported.server_isLine (h : Imported pf orders p s)
    (hn : (serverNames p.options.get).head? = some name) : '\r' ∉ name := by
  obtain ⟨n, hc⟩ := h.converted
  rw [← mServerName_of_convert h.convert, List.head?_map, Option.map_eq_some_iff] at hn
  obtain ⟨c, hhead, rfl⟩ := hn
  exact (hc.profile.mConnections c (List.mem_of_head? hhead)).1.1.2

/-- **The name** is checked as it was exactly if it is written. -/
theorem Imported.name_iff (h : Imported pf orders p s)
    (ht : s.np.embedFiles.getConfigFile pf = .ok t) (hq : parseConfig t = .ok q) :
    (∀ name type, ChecksName p.options.get name type → ChecksName q.options.get name type) ↔
      ∀ l ∈ (p.options.get "verify-x509-name".toList).getLast?, IsRealName (argument l 1) ∨
        (x509Type l[2]? = .ok .tlsremoteRdn ∧
          (serverNames p.options.get).head? = some (argument l 1)) := by
  obtain ⟨hcheck, -, hwritten⟩ := writtenName_of_convert h.convert
  cases hl : (p.options.get "verify-x509-name".toList).getLast? with
  | none =>
    refine iff_of_true ?_ (by simp)
    rintro name type ⟨l, hm, -⟩
    rw [hl] at hm
    cases hm
  | some l =>
    obtain ⟨type, htype, hreal, hother⟩ := hwritten l hl
    obtain ⟨hwords, hkind⟩ := x509Type_typeWords htype
    have hlast : lastArgument p.options.get "verify-x509-name".toList = some (argument l 1) := by
      rw [lastArgument, hl]
      rfl
    have hname : checkedName p.options.get = some (argument l 1) := by
      rw [checkedName, hlast]
      rfl
    have hon : s.np.mCheckRemoteCN = true := by
      rw [hcheck, hname]
      rfl
    have hasked : (∀ name type, ChecksName p.options.get name type →
        ChecksName q.options.get name type) ↔ ChecksName q.options.get (argument l 1) type := by
      refine ⟨fun hall => hall _ _ ⟨l, hl, rfl, htype⟩, fun hone name' type' => ?_⟩
      rintro ⟨l', hl', rfl, htype'⟩
      obtain rfl := Option.some.inj (hl.symm.trans hl')
      obtain rfl := Except.ok.inj (htype.symm.trans htype')
      exact hone
    rw [hasked]
    simp only [Option.mem_def, Option.some.injEq, forall_eq']
    by_cases hn : IsRealName (argument l 1)
    · have hquoted := h.importable.options.quoted _ (by decide) l hl
      rw [h.checksName_iff ht hq hon (hreal hn) hkind (h.importable.name _ hlast) hquoted.1]
      exact iff_of_true ⟨rfl, hwords⟩ (.inl hn)
    · cases hserver : (serverNames p.options.get).head? with
      | none =>
        have hnil := List.head?_eq_none_iff.1 hserver
        exact absurd (h.returns_iff.1 ⟨t, ht⟩ hnil _ hname) hn
      | some server =>
        have hw : writtenName s.np = some (server, .tlsremoteRdn) := by
          rw [hother hn, hserver]
          rfl
        rw [h.checksName_iff ht hq hon hw (by decide) (h.importable.server _ hserver)
          (h.server_isLine hserver), htype, or_iff_right hn, and_comm, Option.some.injEq]
        refine and_congr_left fun _ => ?_
        rw [show x509Type (typeWords .tlsremoteRdn).head? = .ok .tlsremoteRdn by decide]
        exact eq_comm

lemma CustomText.reads {crl : Text} {rest : Options} (h : CustomText False order o np crl rest) :
    Reads np.customLines.flatten := by
  have hleft : Reads ((rest.values order).flatMap getOptionStrings) := by
    refine Reads.flatMap fun lines hl => Reads.flatMap fun line hline => ?_
    obtain ⟨-, name, rfl⟩ := Multimap.mem_values.1 hl
    exact reads_optionString (h.lineFits (Multimap.mem_get.1 hline))
  obtain ⟨ls, hls⟩ := hleft.about []
  have hcrl : Says False [] [] crl := h.directory [] (by decide)
  by_cases hu : np.mUseCustomConfig = true
  · have hon : Says False [] (if rest = [] then [] else ls) np.customLines.flatten := by
      refine says_customLines (fun _ => ?_) fun hoff => ?_
      · rw [h.text, customText]
        split_ifs
        · exact hcrl
        · exact (says_customHeader.append_nil hcrl).append_nil hls
      · rw [hu] at hoff
        cases hoff
    exact Reads.intro hon
  · have hoff : Says False [] [] np.customLines.flatten :=
      says_customLines (fun hon => absurd hon hu) fun _ => rfl
    exact Reads.intro hoff

lemma peerLines_of_getConfigFile (ht : np.getConfigFile pf = .ok t) :
    ∃ lines, np.peerLines = .ok lines := by
  obtain ⟨pieces, h, -⟩ := getConfigFile_ok.1 ht
  obtain ⟨authentication, -, h⟩ := bind_eq_ok.1 h
  obtain ⟨peer, hpeer, -⟩ := bind_eq_ok.1 h
  exact ⟨peer, hpeer⟩

/-- The section of the peer asks for a server behind the lines of the name. -/
lemma says_purpose (hp : ProfileFits False np) (htls : IsTls np) (hon : np.mExpectTLSCert = true)
    {lines : List Text} (hl : np.peerLines = .ok lines) : ∃ names,
      Says False "remote-cert-tls".toList (names ++ [["remote-cert-tls".toList, "server".toList]])
        lines.flatten := by
  obtain ⟨names, rfl, hnames, hnone⟩ := peerLines_eq htls hl
  have hserver : Says False "remote-cert-tls".toList [["remote-cert-tls".toList, "server".toList]]
      (piece np.mExpectTLSCert "remote-cert-tls server\n".toList).flatten := by
    have hname : IsName "remote-cert-tls".toList := by decide
    have hline : Says False "remote-cert-tls".toList _ _ := says_args hname.opens
      (by decide : IsLine "server".toList) (by decide : scan (between ["remote-cert-tls".toList])
        ("server".toList ++ ['\x00']) = .ok ["remote-cert-tls".toList, "server".toList])
    rw [piece, if_pos hon, List.flatten_singleton]
    exact hline
  have hread : Reads names.flatten := by
    cases hc : np.mCheckRemoteCN with
    | true =>
      obtain ⟨first, hfirst, rfl⟩ := hnames hc
      rw [List.flatten_append]
      exact (Reads.intro (k := []) (Says.flatten (says_nameLines (by decide) hp hfirst))).append
        (Reads.intro (k := []) (says_usernameFieldLine (by decide) hp))
    | false =>
      rw [hnone hc]
      exact Reads.intro (k := []) .nil
  obtain ⟨ls, hls⟩ := hread.about "remote-cert-tls".toList
  rw [List.flatten_append]
  exact ⟨ls, hls.append hserver⟩

/-- **The purpose of the certificate** is checked as it was. -/
theorem Imported.purpose (h : Imported pf orders p s)
    (ht : s.np.embedFiles.getConfigFile pf = .ok t) (hq : parseConfig t = .ok q)
    (hp : ChecksPurpose p.options.get) : ChecksPurpose q.options.get := by
  obtain ⟨n, hc⟩ := h.converted
  obtain ⟨crl, hcustom⟩ := h.custom
  obtain ⟨l, hl, hserver⟩ := hp
  have hsole : p.options.get "remote-cert-tls".toList = [l] := by
    have hlen := (h.importable.once "remote-cert-tls".toList (by decide)).1
    obtain ⟨a, ha⟩ := List.length_eq_one_iff.1 (le_antisymm hlen (List.length_pos_of_mem hl))
    rw [ha, List.mem_singleton] at hl
    rw [ha, hl]
  have hwants : wantsServer p.options.get = true := by
    rw [wantsServer, hsole]
    exact decide_eq_true hserver
  have hon : s.np.embedFiles.mExpectTLSCert = true :=
    (mExpectTLSCert_of_convert h.convert).trans hwants
  obtain ⟨before, hbefore⟩ := h.reads_sole (k := "remote-cert-tls".toList)
  obtain ⟨behind, hbehind⟩ := hcustom.reads.about "remote-cert-tls".toList
  obtain ⟨lines, hlines⟩ := peerLines_of_getConfigFile ht
  have htls : IsTls s.np.embedFiles := h.tls
  obtain ⟨names, hnames⟩ := says_purpose hc.profile htls hon hlines
  have hpeer : ∀ lines', s.np.embedFiles.peerLines = .ok lines' → Says False "remote-cert-tls".toList
      (names ++ [["remote-cert-tls".toList, "server".toList]]) lines'.flatten := by
    intro lines' hlines'
    obtain rfl := Except.ok.inj (hlines.symm.trans hlines')
    exact hnames
  obtain ⟨hfile, hunmarked⟩ := hc.says_check h.importable.options.toConnectionsFit
    (h.importable.platform _) (by decide) hbefore
    (Says.flatten (says_keyLines (by decide) hc.profile)) hpeer hbehind ht
  refine ⟨["remote-cert-tls".toList, "server".toList], ?_, rfl⟩
  rw [hfile.of_parseConfig hunmarked hq]
  simp

/-- What the file has of lists of revoked certificates. -/
lemma Imported.says_crl (h : Imported pf orders p s)
    (ht : s.np.embedFiles.getConfigFile pf = .ok t) : ∃ sole keys custom,
      Says False "crl-verify".toList (sole ++ keys ++ custom) t ∧ Unmarked t ∧
      (p.options.get "crl-verify".toList ≠ [] → sole = []) ∧
      (keys ≠ [] ↔ ∃ f ∈ crlFile p.options.get, isEmbedded f = true) ∧
      (custom ≠ [] ↔ (∃ l ∈ (p.options.get "crl-verify".toList).getLast?, isDirectory l = true) ∧
        s.options ≠ []) := by
  obtain ⟨n, hc⟩ := h.converted
  obtain ⟨crl, hcustom⟩ := h.custom
  have ho := h.importable.options
  obtain ⟨hfile, htext, hused, hlen⟩ := crl_of_convert h.convert
  have hstored : s.np.embedFiles.mCrlFilename = embedFile (crlFile p.options.get) :=
    congrArg embedFile hfile
  have hline : ∀ l ∈ (p.options.get "crl-verify".toList).getLast?, isDirectory l = true →
      ∃ args, Says False "crl-verify".toList ["crl-verify".toList :: args]
        (join [' '] l ++ ['\n']) := by
    intro l hl hd
    have hraw := ho.crlVerify l hl
    rw [if_pos (of_decide_eq_true hd)] at hraw
    exact says_directoryLine
      (h.keyed.head (List.mem_of_getLast? hl) (by decide) (by decide)) (hlen l hl) hd hraw
  obtain ⟨keys, hkeys, hembedded⟩ := says_crlFile hc.profile hstored
  obtain ⟨custom, hread, hdirectory⟩ := says_crlCustom hcustom htext hused hline
  obtain ⟨sole, hsole, hnone⟩ : ∃ sole, Says False "crl-verify".toList sole
      (soleCustomLines s.np.embedFiles) ∧ (p.options.get "crl-verify".toList ≠ [] → sole = []) := by
    by_cases hnil : p.options.get "crl-verify".toList = []
    · obtain ⟨sole, hsole⟩ := h.reads_sole (k := "crl-verify".toList)
      exact ⟨sole, hsole, fun hne => absurd hnil hne⟩
    · have hout := (h.importable.once "crl-verify".toList (by decide)).2 hnil
      exact ⟨[], hc.says_soleCustomLines ho.toConnectionsFit hout, fun _ => rfl⟩
  obtain ⟨hall, hunmarked⟩ := hc.says_check ho.toConnectionsFit (h.importable.platform _) (by decide)
    hsole hkeys (fun lines hl => Says.flatten (says_peerLines (by decide) hc.profile hl)) hread ht
  rw [List.append_nil] at hall
  exact ⟨sole, keys, custom, hall, hunmarked, hnone, hembedded, hdirectory⟩

/-- **The lists of revoked certificates** are there if they are embedded, or if they are a directory
and something is left of the options. -/
theorem Imported.revoked_iff (h : Imported pf orders p s)
    (ht : s.np.embedFiles.getConfigFile pf = .ok t) (hq : parseConfig t = .ok q) :
    (ChecksRevoked p.options.get → ChecksRevoked q.options.get) ↔
      ∀ l ∈ (p.options.get "crl-verify".toList).getLast?,
        if isDirectory l = true then LeftOver p.options.get
        else isEmbedded (argument l 1) = true := by
  obtain ⟨sole, keys, custom, hfile, hunmarked, hsole, hkeys, hcustom⟩ := h.says_crl ht
  cases hl : (p.options.get "crl-verify".toList).getLast? with
  | none => exact iff_of_true (fun hne => absurd (List.getLast?_eq_none_iff.1 hl) hne) (by simp)
  | some l =>
    have hne : p.options.get "crl-verify".toList ≠ [] := List.ne_nil_of_mem (List.mem_of_getLast? hl)
    rw [hl] at hcustom
    unfold crlFile at hkeys
    rw [hl] at hkeys
    have hread : ChecksRevoked q.options.get ↔ keys ≠ [] ∨ custom ≠ [] := by
      rw [ChecksRevoked, hfile.of_parseConfig hunmarked hq, hsole hne, List.nil_append, Ne,
        List.append_eq_nil_iff, not_and_or]
    rw [imp_iff_right (show ChecksRevoked _ from hne), hread, hkeys, hcustom,
      options_ne_nil_iff h.convert]
    simp only [Option.mem_def, Option.some.injEq, forall_eq', exists_eq_left']
    by_cases hd : isDirectory l = true
    · simp [hd]
    · simp [hd]

/-- A configuration with a check of each kind. -/
def serverChecks : Text :=
  ("remote vpn.example.com 1194\nverify-x509-name server name\nremote-cert-tls server\n" ++
    "<crl-verify>\nlist\n</crl-verify>\n").toList

def serverChecksParser : ConfigParser where
  options := [entry "remote".toList ["vpn.example.com".toList, "1194".toList],
    entry "verify-x509-name".toList ["server".toList, "name".toList],
    entry "remote-cert-tls".toList ["server".toList],
    entry "crl-verify".toList ["[[INLINE]]list".toList]]
  metaOptions := []

lemma importable_serverChecks : Importable ovpn3Device serverChecksParser.options.get := by
  let names : List Text := "remote".toList :: checkNames
  have hkeys : ∀ e ∈ serverChecksParser.options, e.1 ∈ names := by decide
  have hget : ∀ name ∉ names, serverChecksParser.options.get name = [] := fun name hn =>
    Multimap.get_eq_nil_iff.2 fun l hl => hn (hkeys _ hl)
  have hall : ∀ {name : Text} {P : List Text → Prop}, name ∉ names →
      ∀ l ∈ serverChecksParser.options.get name, P l := by
    intro name P hn l hl
    rw [hget name hn] at hl
    cases hl
  have hlast : ∀ {name : Text} {P : List Text → Prop}, name ∉ names →
      ∀ l ∈ (serverChecksParser.options.get name).getLast?, P l :=
    fun hn l hl => hall hn l (List.mem_of_getLast? hl)
  have hverify : serverChecksParser.options.get "verify-x509-name".toList =
      [["verify-x509-name".toList, "server".toList, "name".toList]] := by decide
  have hremote : serverChecksParser.options.get "remote".toList =
      [["remote".toList, "vpn.example.com".toList, "1194".toList]] := by decide
  have hcrl : serverChecksParser.options.get "crl-verify".toList =
      [["crl-verify".toList, "[[INLINE]]list".toList]] := by decide
  have hraw : ∀ name ∈ rawNames, name ∉ names := by decide
  have hquoted : ∀ name ∈ quotedNames, name = "verify-x509-name".toList ∨ name ∉ names := by decide
  have hstored : ∀ name ∈ storedNames, name ∉ names := by decide
  have hconverted : ∀ name ∈ names, name ∈ convertedNames ++ ignoreOptions := by decide +kernel
  have hserver : (serverNames serverChecksParser.options.get).head? =
      some "vpn.example.com".toList := by decide
  exact {
    secret := hget _ (by decide)
    once := fun k hk => ⟨by revert k; decide, fun _ => outsideBlocks_of_nil (hget _ (by decide))⟩
    options := {
      port := hlast (by decide)
      rport := hlast (by decide)
      remote := by
        rw [hremote]
        simp only [List.forall_mem_cons]
        exact ⟨⟨⟨by decide, .inr (by decide)⟩, ⟨by decide, .inr (by decide)⟩⟩, by simp⟩
      connection := hall (by decide)
      raw := fun name hn => hlast (hraw name hn)
      quoted := by
        intro name hn l hl
        rcases hquoted name hn with rfl | hn
        · rw [hverify] at hl
          obtain rfl := Option.some.inj hl
          exact ⟨by decide, .inr (by decide)⟩
        · rw [hget name hn] at hl
          cases hl
      stored := fun name hn => hlast (hstored name hn)
      secret := hlast (by decide)
      tlsCrypt := hlast (by decide)
      tlsAuth := hall (by decide)
      crlVerify := by
        rw [hcrl]
        rintro l ⟨⟩
        refine ⟨?_, by decide⟩
        unfold Encloses
        decide
      ifconfig := hlast (by decide)
      dhcpOption := hall (by decide)
      route := hall (by decide)
      routeIpv6 := hall (by decide)
      remoteCertTls := fun hne =>
        absurd rfl (hne ["remote-cert-tls".toList, "server".toList] (by decide))
      other := fun name hn => hall fun hm => hn (hconverted name hm) }
    name := by decide
    server := by
      rw [hserver]
      decide
    platform := fun _ => ovpn3Device_fits
    ready := .inl rfl }

end BuludTechVPN.FileReading
