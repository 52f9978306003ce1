import BuludTechVPN.ConvertedProfile

/-!
What the file of a converted profile says: beside its routes and its custom options, nothing that
is not about an option of one of its sections.
-/

namespace BuludTechVPN.FileReading

open JavaLang LineParser ParseConfig VpnProfile ConvertProfile ImportChecks Stages

variable {fails : Prop} {k : Text} {n : Notes} {order : KeyOrder Text} {o : Options}
variable {np : VpnProfile} {pf : Platform}

/-! ### Custom options -/

/-- What is left of the options is none of those that are taken. -/
lemma CustomText.notMem_names {crl : Text} {rest : Options} {e : Text × List Text}
    (h : CustomText fails order o np crl rest) (he : e ∈ rest) :
    e.1 ∉ convertedNames ++ ignoreOptions := by
  intro hn
  have hmem : e.2 ∈ rest.get e.1 := Multimap.mem_get.2 he
  have hne : e.1 ≠ remotetls := fun heq => absurd (heq ▸ hn) (by decide +kernel)
  rw [h.took _ hne, if_pos hn] at hmem
  cases hmem

lemma CustomText.lineFits {crl : Text} {rest : Options} {e : Text × List Text}
    (h : CustomText fails order o np crl rest) (he : e ∈ rest) : LineFits fails e.2 :=
  h.fits.other _ (h.notMem_names he) _ (Multimap.mem_get.2 he)

lemma says_customHeader : Says fails k [] customHeader :=
  says_known (by decide +kernel : isAbout [] customHeader) (by simp)

/-- What is left of the options is about none of those that the conversion takes. -/
lemma CustomText.says_left {crl : Text} {rest : Options} (h : CustomText fails order o np crl rest)
    (hk : k ∈ convertedNames ++ ignoreOptions) (hcert : k ≠ "remote-cert-tls".toList) :
    Says fails k [] ((rest.values order).flatMap getOptionStrings) := by
  refine says_values fun e he => ⟨h.lineFits he, ?_⟩
  obtain ⟨arg0, args, hline, hkey⟩ := h.keyed _ _ (Multimap.mem_get.2 he)
  rw [hline]
  rintro name ⟨⟩ rfl
  rcases hkey with hkey | ⟨-, rfl⟩
  · exact h.notMem_names he (hkey ▸ hk)
  · exact hcert (by decide)

/-- Custom options are about none of the options that the conversion takes. -/
lemma CustomText.says_nil {crl : Text} {rest : Options} (h : CustomText fails order o np crl rest)
    (hk : k ∈ convertedNames ++ ignoreOptions) (hcrl : k ≠ "crl-verify".toList)
    (hcert : k ≠ "remote-cert-tls".toList) : Says fails k [] np.customLines.flatten := by
  refine says_customLines (fun _ => ?_) fun _ => rfl
  rw [h.text]
  unfold customText
  split_ifs
  · exact h.directory k hcrl
  · exact (says_customHeader.append_nil (h.directory k hcrl)).append_nil (h.says_left hk hcert)

/-! ### Connections -/

/-- No block has the option. -/
def OutsideBlocks (k : Text) (o : Lines) : Prop :=
  ∀ conn ∈ o "connection".toList, ∀ p, parseConfig (blockText conn) = .ok p → p.options.get k = []

lemma Switched.customLines {c c' : Connection} (h : Switched c' c) :
    c.customLines = c'.customLines := by
  rcases h with rfl | rfl
  · rfl
  · rfl

lemma Switched.getConnectionBlock {c c' : Connection} (h : Switched c' c) :
    c.getConnectionBlock = c'.getConnectionBlock := by
  rcases h with rfl | rfl
  · rfl
  · rfl

lemma Converted.blocksFit (h : Converted fails n order o np) (ho : ConnectionsFit fails o.get) :
    BlocksFit np := by
  intro c hc
  obtain ⟨c', horigin, hs⟩ := h.origins c hc
  rw [hs.getConnectionBlock]
  exact (horigin.fits ho).block

/-- What a sole connection writes outside of a block. -/
lemma Converted.says_soleCustomLines (h : Converted fails n order o np)
    (ho : ConnectionsFit fails o.get) (hk : OutsideBlocks k o.get) :
    Says fails k [] (soleCustomLines np) := by
  unfold soleCustomLines
  split
  · next c hconns =>
    obtain ⟨c', horigin, hs⟩ := h.origins c (hconns ▸ List.mem_singleton_self c)
    rw [hs.customLines]
    exact horigin.says_nil ho hk
  · exact .nil

/-! ### The file -/

/-- The names of all the sections but that of the routes and the custom options. -/
def sectionNames : List Text :=
  fixedNames ++ remotesNames ++ keyNames ++ peerNames ++ ["connection".toList]

/-- **The file of a converted profile** says what its routes and its custom options say. -/
theorem Converted.says_file {routes custom : List (List Text)} {t : Text}
    (h : Converted fails n order o np) (ho : ConnectionsFit fails o.get) (hk : k ∉ sectionNames)
    (hblocks : OutsideBlocks k o.get) (hpf : PlatformFits fails k pf)
    (hroutes : Says fails k routes (ipv4RouteLines np).flatten)
    (hcustom : Says fails k custom np.customLines.flatten) (ht : np.getConfigFile pf = .ok t) :
    Says fails k (routes ++ custom) t ∧ Unmarked t := by
  simp only [sectionNames, List.mem_append, not_or, List.mem_singleton] at hk
  obtain ⟨⟨⟨⟨hfixed, hremotes⟩, hkeys⟩, hpeer⟩, hconnection⟩ := hk
  have := says_getConfigFile hfixed hpf h.profile
    (says_remoteLines hremotes h.profile (h.says_soleCustomLines ho hblocks))
    (Says.flatten (says_keyLines hkeys h.profile)) hroutes
    (fun lines hl => Says.flatten (says_peerLines hpeer h.profile hl)) hcustom
    (Says.flatten (says_blockLines hconnection (h.blocksFit ho))) ht
  simpa only [List.nil_append, List.append_nil] using this

/-- The device can give what the keystore is asked for. -/
def Platform.Ready (pf : Platform) : Prop :=
  pf.configForOvpn3 = true ∨ pf.keyStoreCertificates.isSome = true ∨ pf.jellyBean = false

lemma credentialLines_returns (hpf : Platform.Ready pf) :
    ∃ lines, credentialLines pf np = .ok lines := by
  have hkeystore : ∃ lines,
      (if pf.configForOvpn3 = true then .ok [] else keychainLines pf np) = Except.ok lines := by
    split_ifs with hv
    · exact ⟨_, rfl⟩
    · unfold keychainLines
      split
      · exact ⟨_, rfl⟩
      · next hnone =>
        rcases hpf with h | h | h
        · exact absurd h hv
        · rw [hnone] at h
          cases h
        · rw [h]
          exact ⟨_, rfl⟩
  unfold credentialLines
  cases np.mAuthenticationType with
  | keystore | userpassKeystore => exact hkeystore
  | certificates | userpassCertificates => exact ⟨_, rfl⟩
  | pkcs12 | userpassPkcs12 => exact ⟨_, rfl⟩
  | userpass | statickeys => exact ⟨_, rfl⟩

lemma peerLines_returns (h : np.mCheckRemoteCN = true → np.mRemoteCN ≠ [] ∨ np.mConnections ≠ []) :
    ∃ lines, np.peerLines = .ok lines := by
  have hname : np.mCheckRemoteCN = true → ∃ lines, np.nameLines = .ok lines := by
    intro hc
    unfold nameLines
    split_ifs with hcn
    · rcases h hc with h | h
      · exact absurd hcn h
      · obtain ⟨c, cs, hcs⟩ := List.exists_cons_of_ne_nil h
        rw [hcs]
        exact ⟨_, rfl⟩
    · exact ⟨_, rfl⟩
  unfold peerLines
  split_ifs with hs hc
  · exact ⟨_, rfl⟩
  · obtain ⟨lines, hl⟩ := hname hc
    rw [hl]
    exact ⟨_, rfl⟩
  · exact ⟨_, rfl⟩

/-- **The file is written**, if the keystore answers and there is a name to check, or a server
whose name is checked. -/
theorem getConfigFile_returns (hpf : Platform.Ready pf)
    (h : np.mCheckRemoteCN = true → np.mRemoteCN ≠ [] ∨ np.mConnections ≠ []) :
    ∃ t, np.getConfigFile pf = .ok t := by
  obtain ⟨credentials, hcredentials⟩ := @credentialLines_returns np pf hpf
  obtain ⟨peer, hpeer⟩ := peerLines_returns h
  rw [getConfigFile, configPieces, authenticationLines, hcredentials, hpeer]
  exact ⟨_, rfl⟩

/-- A converted profile has a name to check, or a server, if the names that the configuration asks
for without a server are names. -/
lemma hasName_of_convert {orders : ℕ → KeyOrder Text} {p : ConfigParser} {text : Text} {s : Import}
    (hp : parseConfig text = .ok p) (ho : OptionsFit fails p.options.get)
    (hnames : p.options.get "remote".toList = [] → p.options.get "connection".toList = [] →
      ∀ name ∈ ["tls-remote".toList, "verify-x509-name".toList],
        ∀ l ∈ (p.options.get name).getLast?, IsRealName (argument l 1))
    (hs : convertProfile orders p = .ok s) :
    (∃ n, Converted fails n (orders 0) p.options s.np) ∧
      (s.np.mCheckRemoteCN = true → s.np.mRemoteCN ≠ [] ∨ s.np.mConnections ≠ []) := by
  let n : Notes := ⟨none, none, True, p.options.get "remote".toList = [] ∧
    p.options.get "connection".toList = []⟩
  have hn : Noted n p.options.get := ⟨fun _ => trivial, fun hn => hnames hn.1 hn.2⟩
  obtain ⟨s₁, s₂, -, -, -, -, hc, -⟩ := converted ho hn (keyed_of_parseConfig hp) hs
  refine ⟨⟨_, hc⟩, fun hcheck => ?_⟩
  by_cases hnone : n.named
  · exact .inl (hc.named hnone hcheck)
  · refine .inr fun hnil => hnone ?_
    have hlen := hc.length
    rw [hnil, List.length_nil] at hlen
    split_ifs at hlen with hconn
    · exact ⟨List.length_eq_zero_iff.1 hlen.symm, hconn⟩
    · exact absurd (List.length_eq_zero_iff.1 hlen.symm) hconn

/-! ### A device and a configuration -/

/-- A device of the OpenVPN 3 backend. -/
def ovpn3Device : Platform where
  configForOvpn3 := true
  cacheDir := "/data/cache".toList
  versionEnvString := "1.0".toList
  versionString := "30".toList
  keyStoreCertificates := none
  keychainAccess := []
  jellyBean := false
  jellyKeystoreAlphanumericBug := []
  usesystemproxy := false

lemma ovpn3Device_fits : PlatformFits fails k ovpn3Device where
  cacheDir := ⟨by decide, .inr (by decide)⟩
  versionEnvString := ⟨by decide, .inr (by decide)⟩
  versionString := ⟨by decide, .inr (by decide)⟩
  keyStoreCertificates := by
    rintro ca extra cert ⟨⟩
  keychainAccess := says_blank
  jellyKeystoreAlphanumericBug := says_blank

/-- The names of options that are converted to plain fields or not at all. -/
def plainNames : List Text :=
  ["auth-user-pass".toList, "remote".toList, "route".toList] ++ ignoreOptions

/-- The other names at which the conversion stores something that is written. -/
def storingNames : List Text :=
  rawNames ++ quotedNames ++ storedNames ++
    ["port", "rport", "connection", "secret", "tls-crypt", "tls-auth", "crl-verify", "ifconfig",
     "dhcp-option", "route-ipv6", "remote-cert-tls"].map String.toList

/-- Of a configuration without the options whose arguments are stored only the remotes, the routes
and what is left have to fit. -/
lemma optionsFit_of_stored {o : Lines} (hnone : ∀ name ∈ storingNames, o name = [])
    (hremote : ∀ l ∈ o "remote".toList, Raw fails (argument l 1) ∧ Raw fails (argument l 2))
    (hroute : ∀ l ∈ o "route".toList, Spaced fails (argument l 1))
    (hother : ∀ name ∉ convertedNames ++ ignoreOptions, ∀ l ∈ o name, LineFits fails l) :
    OptionsFit fails o := by
  have hall : ∀ {name : Text} {P : List Text → Prop}, name ∈ storingNames →
      ∀ l ∈ o name, P l := by
    intro name P hn l hl
    rw [hnone name hn] at hl
    cases hl
  have hlast : ∀ {name : Text} {P : List Text → Prop}, name ∈ storingNames →
      ∀ l ∈ (o name).getLast?, P l :=
    fun hn l hl => hall hn l (List.mem_of_getLast? hl)
  have hnames : ∀ name ∈ rawNames ++ quotedNames ++ storedNames, name ∈ storingNames :=
    fun name hn => List.mem_append_left _ hn
  exact {
    port := hlast (by decide)
    rport := hlast (by decide)
    remote := hremote
    connection := hall (by decide)
    raw := fun name hn => hlast (hnames name (by simp [hn]))
    quoted := fun name hn => hlast (hnames name (by simp [hn]))
    stored := fun name hn => hlast (hnames name (by simp [hn]))
    secret := hlast (by decide)
    tlsCrypt := hlast (by decide)
    tlsAuth := hall (by decide)
    crlVerify := hlast (by decide)
    ifconfig := hlast (by decide)
    dhcpOption := hall (by decide)
    route := hroute
    routeIpv6 := hall (by decide)
    remoteCertTls := fun _ => hall (by decide)
    other := hother }

/-- Of a configuration of such options everything is read back as it is written. -/
lemma optionsFit_of_plain {o : Lines} (hnone : ∀ name ∉ plainNames, o name = [])
    (hremote : ∀ l ∈ o "remote".toList, Raw fails (argument l 1) ∧ Raw fails (argument l 2))
    (hroute : ∀ l ∈ o "route".toList, Spaced fails (argument l 1)) : OptionsFit fails o := by
  have hstoring : ∀ name ∈ storingNames, name ∉ plainNames := by decide +kernel
  have hplain : ∀ name ∈ plainNames, name ∈ convertedNames ++ ignoreOptions := by decide +kernel
  refine optionsFit_of_stored (fun name hn => hnone name (hstoring name hn)) hremote hroute ?_
  intro name hn l hl
  rw [hnone name fun hm => hn (hplain name hm)] at hl
  cases hl

lemma outsideBlocks_of_nil {o : Lines} (h : o "connection".toList = []) : OutsideBlocks k o := by
  intro conn hc
  rw [h] at hc
  cases hc

end BuludTechVPN.FileReading
