import BuludTechVPN.StageActions
import BuludTechVPN.WrittenProfile

/-!
Options that are not recognised survive an import.

What is left of the options is written back as text at the end of the file. A line of it is read
back as it is if its arguments survive the escaping.
-/

namespace BuludTechVPN.FileReading

open JavaLang LineParser ParseConfig VpnProfile ConvertProfile ImportChecks Stages

variable {fails : Prop} {k name t u : Text} {line args : List Text} {lines : List (List Text)}

/-! ### Lines -/

/-- The line is read back as it is. -/
inductive LineSurvives : List Text → Prop
  | file {name file : Text} (hn : name ∈ fileNames) (h : FileFits False name (some file))
      (hfile : if isEmbedded file then startsWith file inlineTag = true else Survives file) :
      LineSurvives [name, file]
  | words {name : Text} {args : List Text} (hfile : name ∈ fileNames → args.length ≠ 1)
      (hn : NameFits name) (h : ∀ a ∈ args, Survives a ∧ '\r' ∉ a) : LineSurvives (name :: args)

lemma newline_notMem_of_survives {a : Text} (h : Survives a) : '\n' ∉ a := by
  unfold Survives at h
  split_ifs at h
  · exact (isLine_of_isWord h).1
  · exact h.1

lemma LineSurvives.fits (h : LineSurvives line) : LineFits False line := by
  cases h with
  | file hn h _ => exact .file hn h
  | words hfile hn h =>
    exact .words hfile hn fun a ha => ⟨(h a ha).2, .inr (newline_notMem_of_survives (h a ha).1)⟩

lemma getEmbeddedContent_inline {file : Text} (h : startsWith file inlineTag = true) :
    inlineTag ++ getEmbeddedContent file = file := by
  have htails : file.tails.find? (startsWith · inlineTag) = some file := by
    cases file with
    | nil => exact absurd h (by decide)
    | cons c file => exact List.find?_cons_of_pos h
  obtain ⟨rest, hrest⟩ := List.isPrefixOf_iff_prefix.1 h
  have hdrop : file.drop inlineTag.length = rest := by
    rw [← hrest, List.drop_left]
  rw [getEmbeddedContent, htails]
  exact (congrArg (inlineTag ++ ·) hdrop).trans hrest

/-- An argument that survives, at the end of a line. -/
lemma scan_lastEscape {a : Text} (h : Survives a) :
    scan (between [name]) (openVpnEscape a ++ ['\x00']) = .ok [name, a] := by
  rw [scan_escape h (by decide)]
  rfl

lemma says_survivingFile {file : Text} (hn : name ∈ fileNames)
    (h : FileFits False name (some file))
    (hfile : if isEmbedded file then startsWith file inlineTag = true else Survives file) :
    Says False k (if optionAlias name = k then [[name, file]] else [])
      (insertFileData name (some file)) := by
  have hnames : ∀ name ∈ fileNames, IsTag name ∧ IsName name := by decide
  obtain ⟨htag, hname⟩ := hnames name hn
  unfold FileFits at h
  unfold insertFileData
  dsimp only at h ⊢
  by_cases hemb : isEmbedded file = true
  · rw [if_pos hemb] at h hfile ⊢
    have hblock : Says False k _ _ := says_inlineBlock htag h.1 h.2
    rwa [getEmbeddedContent_inline hfile] at hblock
  · rw [if_neg hemb] at h hfile ⊢
    exact says_args hname.opens h.behind.1 (scan_lastEscape hfile)

/-- **A line that survives** is read back as it is. -/
theorem says_survivingLine (h : LineSurvives line) (hi : ignoreThisOption line = false) :
    Says False k (if line.head?.map optionAlias = some k then [line] else [])
      (optionString line) := by
  cases h with
  | @file name file hn h hfile =>
    rw [optionString_file hi hn]
    simpa using says_survivingFile hn h hfile
  | @words name args hfile hn h =>
    have hargs : ∀ a ∈ args, Survives a := fun a ha => (h a ha).1
    have hline : Behind False (wordsLine args) := behind_wordsLine fun a ha =>
      ⟨(h a ha).2, .inr (newline_notMem_of_survives (hargs a ha))⟩
    have hscan : scan (between [name]) (wordsLine args ++ ['\x00']) = .ok (name :: args) := by
      rw [wordsLine, scan_escapes hargs, scan_end]
      rfl
    rw [optionString_words hi hfile, wordsLine_cons]
    simpa using says_args (k := k) hn.opens hline.1 hscan

/-- The lines that are kept: all but those that are ignored for their arguments. -/
def keptLines (lines : List (List Text)) : List (List Text) :=
  lines.filter fun line => !ignoreThisOption line

lemma says_keptLines (h : ∀ l ∈ keptLines lines, LineSurvives l)
    (hk : ∀ l ∈ lines, l.head?.map optionAlias = some k) :
    Says False k (keptLines lines) (getOptionStrings lines) := by
  induction lines with
  | nil => exact .nil
  | cons l lines ih =>
    rw [List.forall_mem_cons] at hk
    unfold keptLines at h ⊢
    cases hi : ignoreThisOption l with
    | true =>
      rw [List.filter_cons_of_neg (by rw [hi]; decide)] at h ⊢
      rw [getOptionStrings, List.flatMap_cons, optionString_ignored hi]
      exact ih h hk.2
    | false =>
      rw [List.filter_cons_of_pos (by rw [hi]; rfl)] at h ⊢
      rw [List.forall_mem_cons] at h
      have hline : Says False k _ _ := says_survivingLine h.1 hi
      rw [if_pos hk.1] at hline
      exact hline.append (ih h.2 hk.2)

/-! ### What is left of the options -/

/-- Of texts that are written one after the other, one is about the option. -/
lemma Says.flatMap_of_mem {α : Type} {l : List α} {f : α → Text} {a : α} {ls : List (List Text)}
    (hn : l.Nodup) (ha : a ∈ l) (hf : Says fails k ls (f a))
    (hother : ∀ b ∈ l, b ≠ a → Says fails k [] (f b)) : Says fails k ls (l.flatMap f) := by
  obtain ⟨before, behind, rfl⟩ := List.append_of_mem ha
  have hnot : ∀ b ∈ before ++ behind, b ≠ a := by
    rintro b hb rfl
    exact (List.nodup_middle.1 hn).notMem hb
  rw [List.flatMap_append, List.flatMap_cons]
  refine (Says.flatMap fun b hb => ?_).append_nil (hf.nil_append (Says.flatMap fun b hb => ?_))
  · exact hother b (by simp [hb]) (hnot b (by simp [hb]))
  · exact hother b (by simp [hb]) (hnot b (by simp [hb]))

/-- **What is left of the options** is read back option by option. -/
theorem says_leftOptions {order : KeyOrder Text} {rest : Options} (hk : k ≠ remotetls)
    (hcert : k ≠ "remote-cert-tls".toList) (hkeyed : Keyed rest.get)
    (hfits : ∀ e ∈ rest, LineFits False e.2) (h : ∀ l ∈ keptLines (rest.get k), LineSurvives l) :
    Says False k (keptLines (rest.get k)) ((rest.values order).flatMap getOptionStrings) := by
  have hown : Says False k (keptLines (rest.get k)) (getOptionStrings (rest.get k)) := by
    refine says_keptLines h fun l hl => ?_
    obtain ⟨arg0, args, rfl, hkey | ⟨hkey, -⟩⟩ := hkeyed k l hl
    · rw [List.head?_cons, Option.map_some, hkey]
    · exact absurd hkey hk
  have hother : ∀ name ∈ order.visit rest.keys, name ≠ k →
      Says False k [] (getOptionStrings (rest.get name)) := by
    intro name _ hne
    refine says_getOptionStrings (fun l hl => hfits _ (Multimap.mem_get.1 hl)) ?_
    rintro l hl arg0 harg0 halias
    obtain ⟨arg0', args, rfl, hkey | ⟨-, hkey⟩⟩ := hkeyed name l hl
    · obtain rfl := Option.some.inj harg0
      exact hne (hkey.symm.trans halias)
    · obtain rfl := Option.some.inj harg0
      rw [hkey] at halias
      exact hcert halias.symm
  rw [Multimap.values, List.flatMap_map]
  by_cases hm : k ∈ order.visit rest.keys
  · exact Says.flatMap_of_mem ((order.perm _).nodup_iff.2 (List.nodup_dedup _)) hm hown hother
  · rw [Multimap.mem_visit, not_not] at hm
    rw [hm]
    refine Says.flatMap fun name hn => ?_
    by_cases hne : name = k
    · rw [hne, hm]
      exact .nil
    · exact hother name hn hne

variable {n : Notes} {order : KeyOrder Text} {o : Options} {np : VpnProfile} {pf : Platform}

/-- The custom options say of an option that is not recognised what the configuration says. -/
lemma CustomText.says_kept {crl : Text} {rest : Options} (h : CustomText False order o np crl rest)
    (hk : k ∉ convertedNames ++ ignoreOptions) (hne : k ≠ remotetls)
    (hs : ∀ l ∈ keptLines (o.get k), LineSurvives l) :
    Says False k (keptLines (o.get k)) np.customLines.flatten := by
  have hget : rest.get k = o.get k := (h.took k hne).trans (if_neg hk)
  have hcrl : k ≠ "crl-verify".toList := (ne_of_mem_of_not_mem (by decide +kernel) hk).symm
  have hcert : k ≠ "remote-cert-tls".toList := (ne_of_mem_of_not_mem (by decide +kernel) hk).symm
  have hempty : rest = [] → keptLines (o.get k) = [] := by
    rintro rfl
    rw [← hget]
    rfl
  rw [← hget] at hs hempty ⊢
  refine says_customLines (fun _ => ?_) fun hu => ?_
  · rw [h.text]
    unfold customText
    split_ifs with hr
    · rw [hempty hr]
      exact h.directory k hcrl
    · exact (says_customHeader.append_nil (h.directory k hcrl)).append_nil
        (says_leftOptions hne hcert h.keyed (fun e he => h.lineFits he) hs)
  · by_cases hr : rest = []
    · exact hempty hr
    · rw [h.used hr] at hu
      cases hu

/-! ### What the file has by itself -/

/-- The text is read without an error. -/
structure Reads (t : Text) : Prop where
  complete : Complete t
  reads : ∃ es, entries .options (readLines t) = .ok (.options, es)

lemma Reads.intro {ls : List (List Text)} (h : Says False k ls t) : Reads t := by
  refine ⟨h.complete, ?_⟩
  obtain ⟨es, he, -⟩ | ⟨hf, -⟩ := h.reads
  · exact ⟨es, he⟩
  · exact hf.elim

lemma Reads.about (h : Reads t) (k : Text) : ∃ ls, Says False k ls t := by
  obtain ⟨es, he⟩ := h.reads
  exact ⟨es.get k, h.complete, .inl ⟨es, he, rfl⟩⟩

lemma Reads.append (ht : Reads t) (hu : Reads u) : Reads (t ++ u) := by
  obtain ⟨ls, hls⟩ := ht.about []
  obtain ⟨ls', hls'⟩ := hu.about []
  exact Reads.intro (hls.append hls')

lemma Reads.flatMap {α : Type} {l : List α} {f : α → Text} (h : ∀ a ∈ l, Reads (f a)) :
    Reads (l.flatMap f) := by
  induction l with
  | nil => exact Reads.intro (k := []) .nil
  | cons a l ih =>
    rw [List.forall_mem_cons] at h
    rw [List.flatMap_cons]
    exact h.1.append (ih h.2)

lemma reads_optionString (h : LineFits False line) : Reads (optionString line) := by
  -- an option that the line is not about
  have hfresh : ∀ name ∈ line.head?,
      optionAlias name ≠ 'x' :: (line.head?.map optionAlias).getD [] := by
    rintro name hname he
    rw [Option.mem_def.1 hname] at he
    exact absurd (congrArg List.length he) (by simp)
  exact Reads.intro (says_optionString h hfresh)

lemma Origin.reads_customLines {c : Connection} (h : Origin False o.get c)
    (ho : ConnectionsFit False o.get) : Reads c.customLines := by
  have hnil : Reads [] := Reads.intro (k := []) .nil
  cases h with
  | remote h =>
    rw [h.customLines_nil]
    exact hnil
  | block order conn p hc hp h =>
    unfold Connection.customLines
    split_ifs
    · exact hnil
    · rw [h.mCustomConfiguration]
      refine Reads.append (Reads.flatMap fun lines hl => Reads.flatMap fun l hm => ?_)
        (Reads.intro (k := []) says_blank)
      obtain ⟨-, name, rfl⟩ := Multimap.mem_values.1 hl
      exact reads_optionString ((ho.connection conn hc p hp).2 _ (Multimap.mem_get.1 hm)).fits

/-- The file has no line of the option but those that are kept. -/
structure Unwritten (pf : Platform) (o : Lines) (k : Text) : Prop where
  resolvRetry : k ≠ "resolv-retry".toList
  ifconfigNowarn : k ≠ "ifconfig-nowarn".toList
  setenv : k = "setenv".toList → pf.configForOvpn3 = true
  extraCerts : k = "extra-certs".toList → hasChain pf = false
  tunMtu : k = "tun-mtu".toList → o "mtu".toList = []
  preresolve : k = "preresolve".toList → o "persist-tun".toList = []
  outside : (o "connection".toList).length = 1 → OutsideBlocks k o

/-- The fields of a converted profile that make it write options of its own. -/
structure OwnFields (o : Lines) (np : VpnProfile) : Prop where
  mIPv6Address : np.mIPv6Address = none
  mTunMtu : o "mtu".toList = [] → np.mTunMtu = 0
  mPersistTun : o "persist-tun".toList = [] → np.mPersistTun = false

lemma ownFields_of_convert {orders : ℕ → KeyOrder Text} {p : ConfigParser} {s : Import}
    (h : convertProfile orders p = .ok s) : OwnFields p.options.get s.np where
  mIPv6Address := same_of_untouched .mIPv6Address (by decide) h
  mTunMtu hnone := by
    obtain ⟨s₁, s₂, hstage, t1, a1, -, a2⟩ :=
      convertProfile_at (f := mtu) 12 rfl h
    obtain ⟨-, hc⟩ := does_mtu s₁ s₂ hstage
    have hlines : view s₁ "mtu".toList = [] := by
      rw [view, t1 _ (by decide), if_neg (by decide +kernel)]
      exact hnone
    simp only [mtuEffect, lastEffect, hlines, List.getLast?_nil] at hc
    have hbefore : s₁.np.mTunMtu = 0 := a1 .mTunMtu (by decide)
    have hbehind : s.np.mTunMtu = s₂.np.mTunMtu := a2 .mTunMtu (by decide)
    rw [hbehind, hc, hbefore]
  mPersistTun hnone := by
    obtain ⟨s₁, s₂, hstage, t1, a1, -, a2⟩ :=
      convertProfile_at (f := persistTun) 31 rfl h
    obtain ⟨-, hc⟩ := does_onFlag s₁ s₂ hstage
    have hlines : view s₁ "persist-tun".toList = [] := by
      rw [view, t1 _ (by decide), if_neg (by decide +kernel)]
      exact hnone
    simp only [flagEffect, lastEffect, hlines, List.getLast?_nil] at hc
    have hbefore : s₁.np.mPersistTun = false := a1 .mPersistTun (by decide)
    have hbehind : s.np.mPersistTun = s₂.np.mPersistTun := a2 .mPersistTun (by decide)
    rw [hbehind, hc, hbefore]

lemma Unwritten.silent {o : Lines} (h : Unwritten pf o k) (hf : OwnFields o np)
    (hk : k ∉ convertedNames ++ ignoreOptions) : k ∈ fixedNames → Silent pf np k := by
  have hnames : ∀ k ∈ fixedNames, k ∈ convertedNames ++ ignoreOptions ∨ k ∈ optionalNames ∨
      k = "resolv-retry".toList ∨ k = "ifconfig-nowarn".toList := by decide +kernel
  intro hm
  rcases hnames k hm with hn | hn | hn | hn
  · exact absurd hn hk
  · exact {
      optional := hn
      setenv := h.setenv
      extraCerts := h.extraCerts
      ifconfigIpv6 := fun _ => hf.mIPv6Address
      tunMtu := fun he => by rw [hf.mTunMtu (h.tunMtu he)]; rfl
      preresolve := fun he => hf.mPersistTun (h.preresolve he) }
  · exact absurd hn h.resolvRetry
  · exact absurd hn h.ifconfigNowarn

/-- Outside of blocks nothing is written of an option that a sole block has not. -/
lemma Converted.says_sole (h : Converted fails n order o np) (ho : ConnectionsFit fails o.get)
    (hk : (o.get "connection".toList).length = 1 → OutsideBlocks k o.get) :
    Says fails k [] (soleCustomLines np) := by
  by_cases hnone : o.get "connection".toList = []
  · exact h.says_soleCustomLines ho (outsideBlocks_of_nil hnone)
  · by_cases hone : (o.get "connection".toList).length = 1
    · exact h.says_soleCustomLines ho (hk hone)
    · unfold soleCustomLines
      split
      · next c hconns =>
        have hlen := h.length
        rw [hconns, if_neg hnone] at hlen
        exact absurd hlen.symm hone
      · exact .nil

lemma Converted.reads_sole (h : Converted False n order o np) (ho : ConnectionsFit False o.get) :
    Reads (soleCustomLines np) := by
  unfold soleCustomLines
  split
  · next c hconns =>
    obtain ⟨c', horigin, hs⟩ := h.origins c (hconns ▸ List.mem_singleton_self c)
    rw [hs.customLines]
    exact horigin.reads_customLines ho
  · exact Reads.intro (k := []) .nil

/-- **What the file has by itself** can be read, and of an option that it does not write there is
nothing in it. -/
theorem Converted.says_own (h : Converted False n order o np) (ho : ConnectionsFit False o.get)
    (hpf : ∀ k, PlatformFits False k pf) (hf : OwnFields o.get np) {pieces : List Text}
    (hp : globalPieces pf np = .ok pieces) (hk : k ∉ convertedNames ++ ignoreOptions) :
    ∃ own, Says False k own pieces.flatten ∧ (Unwritten pf o.get k → own = []) ∧
      ∀ t, Unmarked (pieces.flatten ++ t) := by
  by_cases hu : Unwritten pf o.get k
  · have hnot : ∀ names : List Text, (∀ name ∈ names, name ∈ convertedNames ++ ignoreOptions) →
        k ∉ names := fun names hsub hm => hk (hsub k hm)
    have hroute : k ≠ "route".toList := (ne_of_mem_of_not_mem (by decide +kernel) hk).symm
    obtain ⟨hread, hunmarked⟩ := says_globalPieces (hu.silent hf hk) (hpf k) h.profile
      (says_remoteLines (hnot _ (by decide +kernel)) h.profile (h.says_sole ho hu.outside))
      (Says.flatten (says_keyLines (hnot _ (by decide +kernel)) h.profile))
      (says_ipv4RouteLines hroute h.profile)
      (fun lines hl => Says.flatten (says_peerLines (hnot _ (by decide +kernel)) h.profile hl)) hp
    exact ⟨[], by simpa only [List.nil_append] using hread, fun _ => rfl, hunmarked⟩
  · -- that it can be read is shown for an option without a name
    obtain ⟨ls, hsole⟩ := (h.reads_sole ho).about []
    obtain ⟨hread, hunmarked⟩ := says_globalPieces (k := [])
      (fun hm => absurd hm (by decide +kernel)) (hpf []) h.profile
      (says_remoteLines (by decide +kernel) h.profile hsole)
      (Says.flatten (says_keyLines (by decide +kernel) h.profile))
      (says_ipv4RouteLines (by decide) h.profile)
      (fun lines hl => Says.flatten (says_peerLines (by decide +kernel) h.profile hl)) hp
    obtain ⟨own, hown⟩ := (Reads.intro hread).about k
    exact ⟨own, hown, fun hw => absurd hw hu, hunmarked⟩

/-! ### Imports -/

variable {orders : ℕ → KeyOrder Text} {p : ConfigParser} {text : Text} {s : Import}

/-- What is stored of the configuration, and what is left of it, is written in such a way that it
is read back, and what the device contributes too. -/
structure ReadsBack (pf : Platform) (o : Lines) : Prop where
  options : OptionsFit False o
  lines : ∀ name ∉ convertedNames ++ ignoreOptions, ∀ l ∈ keptLines (o name), LineSurvives l
  names : o "remote".toList = [] → o "connection".toList = [] →
    ∀ name ∈ ["tls-remote".toList, "verify-x509-name".toList],
      ∀ l ∈ (o name).getLast?, IsRealName (argument l 1)
  platform : ∀ k, PlatformFits False k pf
  ready : Platform.Ready pf

/-- **The lines of an option that is not recognised** stand in the file as they are, behind those
that the file has by itself. -/
theorem options_written (hp : parseConfig text = .ok p) (h : ReadsBack pf p.options.get)
    (hs : convertProfile orders p = .ok s) : ∃ t q, s.np.getConfigFile pf = .ok t ∧
      parseConfig t = .ok q ∧ ∀ k ∉ convertedNames ++ ignoreOptions, k ≠ remotetls →
        ∃ own, q.options.get k = own ++ keptLines (p.options.get k) ∧
          (Unwritten pf p.options.get k → own = []) := by
  obtain ⟨⟨n, hc⟩, hname⟩ := hasName_of_convert hp h.options h.names hs
  have ho := h.options.toConnectionsFit
  obtain ⟨t, ht⟩ := getConfigFile_returns h.ready hname
  obtain ⟨pieces, hpieces, htext⟩ := getConfigFile_ok.1 ht
  obtain ⟨crl, rest, hcustom⟩ := hc.custom
  have hfile : ∀ k ∉ convertedNames ++ ignoreOptions, k ≠ remotetls → ∃ own,
      Says False k (own ++ keptLines (p.options.get k)) t ∧
        (Unwritten pf p.options.get k → own = []) ∧ Unmarked t := by
    intro k hk hne
    obtain ⟨own, hown, hnone, hunmarked⟩ :=
      hc.says_own ho h.platform (ownFields_of_convert hs) hpieces hk
    have hconnection : k ≠ "connection".toList := (ne_of_mem_of_not_mem (by decide +kernel) hk).symm
    have hblocks : Says False k _ _ := Says.flatten (says_blockLines hconnection (hc.blocksFit ho))
    refine ⟨own, ?_, hnone, ?_⟩
    · rw [htext]
      exact (hown.append (hcustom.says_kept hk hne (h.lines k hk))).nil_append hblocks
    · rw [htext, List.append_assoc]
      exact hunmarked _
  obtain ⟨own, hread, -, hunmarked⟩ := hfile [] (by decide +kernel) (by decide)
  obtain ⟨q, hq, -⟩ := hread.parseConfig hunmarked
  refine ⟨t, q, ht, hq, fun k hk hne => ?_⟩
  obtain ⟨own, hread, hnone, -⟩ := hfile k hk hne
  exact ⟨own, hread.of_parseConfig hunmarked hq, hnone⟩

/-- The file of the converted profile is written and read, and the options that are not recognised
have the lines that they have in the configuration. -/
def OptionsSurvive (orders : ℕ → KeyOrder Text) (pf : Platform) (p : ConfigParser) : Prop :=
  ∀ s, convertProfile orders p = .ok s → ∃ t q, s.np.getConfigFile pf = .ok t ∧
    parseConfig t = .ok q ∧ ∀ k ∉ convertedNames ++ ignoreOptions,
      keptLines (p.options.get k) ≠ [] → q.options.get k = keptLines (p.options.get k)

/-- A configuration with options that are not recognised, one line of which is ignored. -/
def unknownOptions : Text :=
  ("remote vpn.example.com 1194\ntun-mtu 1400\nreneg-sec 0\nsetenv IV_GUI_VER 3\n" ++
    "setenv opt \"two words\"\n").toList

def unknownOptionsParser : ConfigParser where
  options := [entry "remote".toList ["vpn.example.com".toList, "1194".toList],
    entry "tun-mtu".toList ["1400".toList], entry "reneg-sec".toList ["0".toList],
    entry "setenv".toList ["IV_GUI_VER".toList, "3".toList],
    entry "setenv".toList ["opt".toList, "two words".toList]]
  metaOptions := []

/-- An option with an inline file of two lines. -/
def inlineOption : Text :=
  "remote vpn.example.com\n<tls-crypt-v2>\nfirst\nsecond\n</tls-crypt-v2>\n".toList

def inlineOptionParser : ConfigParser where
  options := [entry "remote".toList ["vpn.example.com".toList],
    entry "tls-crypt-v2".toList ["[[INLINE]]first\nsecond".toList]]
  metaOptions := []

end BuludTechVPN.FileReading
