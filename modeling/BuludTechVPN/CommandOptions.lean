import BuludTechVPN.WrittenProfile

/-!
Options that execute commands or load code, and what an import does to them.

The conversion takes them out of the options that it writes back. It does not look for them among
the options of a `<connection>` block, nor in the lines of a value that is written as it is.
-/

namespace BuludTechVPN.FileReading

open JavaLang LineParser ParseConfig VpnProfile ConvertProfile ImportChecks Stages

variable {fails : Prop} {k : Text}
/-! ### The blocks of the file -/

variable {n : Notes} {order : KeyOrder Text} {o : Options} {np : VpnProfile} {pf : Platform}
variable {c : Connection}

/-- The blocks of the file, as they are read. -/
def writtenBlocks (np : VpnProfile) : List (List Text) :=
  if np.canUsePlainRemotes then []
  else (np.mConnections.filter Connection.mEnabled).map fun c =>
    ["connection".toList, inlineTag ++ c.getConnectionBlock.dropLast]

lemma says_writtenBlocks (hb : BlocksFit np) :
    Says fails "connection".toList (writtenBlocks np) np.blockLines.flatten := by
  unfold writtenBlocks blockLines
  split_ifs
  · exact .nil
  · rw [List.flatten_cons]
    refine says_blocksComment.append_nil (Says.map fun c hc => ?_)
    obtain ⟨u, hu, he, hr⟩ := hb c (List.mem_filter.1 hc).1
    have hblock : Says fails "connection".toList _ _ := says_block hu he hr
    rw [if_pos rfl] at hblock
    rwa [hu, List.dropLast_concat]

/-- **The file of a converted profile has its blocks**, and no other. -/
theorem Converted.says_connection {t : Text} (h : Converted fails n order o np)
    (ho : ConnectionsFit fails o.get) (hblocks : OutsideBlocks "connection".toList o.get)
    (hpf : PlatformFits fails "connection".toList pf) (ht : np.getConfigFile pf = .ok t) :
    Says fails "connection".toList (writtenBlocks np) t ∧ Unmarked t := by
  obtain ⟨crl, rest, hcustom⟩ := h.custom
  have := says_getConfigFile (by decide +kernel) hpf h.profile
    (says_remoteLines (by decide) h.profile (h.says_soleCustomLines ho hblocks))
    (Says.flatten (says_keyLines (by decide) h.profile)) (says_ipv4RouteLines (by decide) h.profile)
    (fun lines hl => Says.flatten (says_peerLines (by decide) h.profile hl))
    (hcustom.says_nil (by decide +kernel) (by decide) (by decide))
    (says_writtenBlocks (h.blocksFit ho)) ht
  simpa only [List.nil_append] using this

/-- The block of a connection has no option that the block it comes from has not. -/
lemma Converted.says_getConnectionBlock (h : Converted fails n order o np)
    (ho : ConnectionsFit fails o.get) (hk : k ∉ remoteNames) (hblocks : OutsideBlocks k o.get)
    (hc : c ∈ np.mConnections) : Says fails k [] c.getConnectionBlock := by
  obtain ⟨c', horigin, hs⟩ := h.origins c hc
  rw [hs.getConnectionBlock]
  have hfit := horigin.fits ho
  exact says_connectionBlock hk ⟨hfit.mServerName, hfit.mServerPort⟩ (horigin.says_nil ho hblocks)

lemma unmarked_getConnectionBlock {u : Text} (h : c.getConnectionBlock = u ++ ['\n']) :
    Unmarked u := by
  have hhead : c.getConnectionBlock.head? = some 'r' := rfl
  cases u with
  | nil =>
    rw [h] at hhead
    exact absurd hhead (by decide)
  | cons d u =>
    rw [h, List.cons_append, List.head?_cons] at hhead
    rw [Unmarked, List.head?_cons, hhead]
    decide

/-- What stands inside of the blocks of the file. -/
lemma Converted.outsideBlocks {t : Text} {q : ConfigParser} (h : Converted fails n order o np)
    (ho : ConnectionsFit fails o.get) (hk : k ∉ remoteNames) (hblocks : OutsideBlocks k o.get)
    (hread : Says fails "connection".toList (writtenBlocks np) t) (hu : Unmarked t)
    (hq : parseConfig t = .ok q) : OutsideBlocks k q.options.get := by
  intro conn hconn p' hp'
  rw [hread.of_parseConfig hu hq] at hconn
  unfold writtenBlocks at hconn
  split_ifs at hconn
  · cases hconn
  · obtain ⟨c, hc, rfl⟩ := List.mem_map.1 hconn
    have hmem := (List.mem_filter.1 hc).1
    obtain ⟨u, hu, -, hr⟩ := h.blocksFit ho c hmem
    have hblock := h.says_getConnectionBlock ho hk hblocks hmem
    have htext : blockText ["connection".toList, inlineTag ++ c.getConnectionBlock.dropLast] = u := by
      rw [hu, List.dropLast_concat]
      exact List.drop_left
    rw [htext] at hp'
    rw [hu] at hblock
    exact hblock.of_parseConfig_content hr (unmarked_getConnectionBlock hu) hp'

/-! ### Commands -/

/-- The options that execute a command or load code. -/
def commandNames : List Text :=
  ["up", "down", "route-up", "ipchange", "route-pre-down", "auth-user-pass-verify", "plugin",
   "script-security"].map String.toList

/-- None of the options is there, neither at the top nor inside of a block. -/
def NoCommands (o : Lines) : Prop := ∀ k ∈ commandNames, o k = [] ∧ OutsideBlocks k o

/-- The types that ask the keystore for nothing. -/
def NonKeystore (np : VpnProfile) : Prop :=
  np.mAuthenticationType ≠ .keystore ∧ np.mAuthenticationType ≠ .userpassKeystore

/-- The directory and the versions of the device are written within their lines. -/
structure SystemLines (pf : Platform) : Prop where
  cacheDir : IsLine pf.cacheDir
  versionEnvString : '\r' ∉ pf.versionEnvString
  versionString : '\r' ∉ pf.versionString

/-- The device without its keystore. -/
def withoutKeystore (pf : Platform) : Platform := { pf with
  keyStoreCertificates := none
  keychainAccess := []
  jellyKeystoreAlphanumericBug := [] }

lemma getConfigFile_withoutKeystore (h : NonKeystore np) :
    np.getConfigFile pf = np.getConfigFile (withoutKeystore pf) := by
  have hcredentials : credentialLines pf np = credentialLines (withoutKeystore pf) np := by
    unfold credentialLines
    cases ha : np.mAuthenticationType with
    | keystore => exact absurd ha h.1
    | userpassKeystore => exact absurd ha h.2
    | certificates | userpassCertificates | pkcs12 | userpassPkcs12 | userpass | statickeys => rfl
  unfold getConfigFile configPieces authenticationLines
  rw [hcredentials]
  rfl

lemma SystemLines.platformFits (h : SystemLines pf) : PlatformFits True k (withoutKeystore pf) where
  cacheDir := ⟨h.cacheDir, .inl trivial⟩
  versionEnvString := ⟨h.versionEnvString, .inl trivial⟩
  versionString := ⟨h.versionString, .inl trivial⟩
  keyStoreCertificates := by
    rintro ca extra cert ⟨⟩
  keychainAccess := says_blank
  jellyKeystoreAlphanumericBug := says_blank

/-- The values of the options are written within their lines, and the blocks have no option that
executes a command, nor a block. -/
structure Guarded (o : Lines) : Prop where
  options : OptionsFit True o
  outside : ∀ k ∈ "connection".toList :: commandNames, OutsideBlocks k o

/-- However the file of the converted profile is written and read, there is no command in it. -/
def CarriesNoCommands (orders : ℕ → KeyOrder Text) (pf : Platform) (p : ConfigParser) : Prop :=
  ∀ s t q, convertProfile orders p = .ok s → NonKeystore s.np → s.np.getConfigFile pf = .ok t →
    parseConfig t = .ok q → NoCommands q.options.get

/-- A configuration that asks for a command to be executed. -/
def upOption : Text := "auth-user-pass\nremote vpn.example.com 1194\nup /bin/run\n".toList

def upOptionParser : ConfigParser where
  options := [entry "auth-user-pass".toList [],
    entry "remote".toList ["vpn.example.com".toList, "1194".toList],
    entry "up".toList ["/bin/run".toList]]
  metaOptions := []

/-- What is read of the file of the converted profile. -/
def readBack (pf : Platform) (p : ConfigParser) : Call Options := do
  let s ← convertProfile (fun _ => .asKept _) p
  let t ← s.np.getConfigFile pf
  ConfigParser.options <$> parseConfig t

/-- The same inside of a block. -/
def upInBlock : Text :=
  ("auth-user-pass\n<connection>\nremote vpn.example.com 1194\nup /bin/run\n" ++
    "</connection>\n").toList

def upInBlockParser : ConfigParser where
  options := [entry "auth-user-pass".toList [], entry "connection".toList
    ["[[INLINE]]remote vpn.example.com 1194\nup /bin/run".toList]]
  metaOptions := []

end BuludTechVPN.FileReading
