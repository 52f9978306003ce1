import BuludTechVPN.LineParser
import BuludTechVPN.Multimap

/-!
`ConfigParser.parseConfig`: the options of a configuration text.

The text is read line by line. The inner loop of `checkinlinefile`, which reads the lines of
an inline file, is a mode of the reader here.
-/

namespace BuludTechVPN.ParseConfig

open JavaLang LineParser

abbrev Options := Multimap Text (List Text)

/-- `ConfigParser`: the options by name, each an option line, and what the comments of an
access server say. -/
structure ConfigParser where
  options : Options
  metaOptions : Multimap Text (List Text)
  deriving DecidableEq, Repr

/-- `VpnProfile.INLINE_TAG`. -/
def inlineTag : Text := "[[INLINE]]".toList

/-- The lines that come next: options, or the lines of an inline file whose start tag was read. -/
inductive Mode
  | options
  | inlinefile (argname inlinefile : Text)
  deriving DecidableEq, Repr

structure Reader where
  parser : ConfigParser
  mode : Mode
  deriving DecidableEq, Repr

def zipMessage : Text :=
  ("Input looks like a ZIP Archive. " ++
    "Import is only possible for OpenVPN config files (.ovpn/.conf)").toList

def accessServer : Text := "# OVPN_ACCESS_SERVER_".toList

/-- `split("=", 2)`. -/
def splitEquals (s : Text) : List Text :=
  match s.span (· ≠ '=') with
  | (a, _ :: b) => [a, b]
  | (a, []) => [a]

/-- `ConfigParser.parsemeta`. -/
def parsemeta (line : Text) : List Text := splitEquals (line.drop accessServer.length)

/-- `optionAliases`. -/
def optionAlias (optionname : Text) : Text :=
  if optionname = "server-poll-timeout".toList then "timeout-connect".toList else optionname

def stripDashes (arg0 : Text) : Text := if startsWith arg0 "--".toList then arg0.drop 2 else arg0

/-- The name between the brackets of a start tag. -/
def startTag (arg0 : Text) : Option Text :=
  let arg0 := trim arg0
  if startsWith arg0 ['<'] && endsWith arg0 ['>'] then some (arg0.drop 1).dropLast else none

def endtag (argname : Text) : Text := "</".toList ++ argname ++ ['>']

def noEndtag (argname : Text) : Text :=
  "No endtag </".toList ++ argname ++ "> for starttag <".toList ++ argname ++ "> found".toList

/-- The inline file without the line feed it ends with. -/
def closeInline (inlinefile : Text) : Text :=
  if endsWith inlinefile ['\n'] then inlinefile.dropLast else inlinefile

/-- `options.get(optionname).add(args)`. -/
def ConfigParser.add (p : ConfigParser) (arg0 : Text) (args : List Text) : ConfigParser :=
  { p with options := p.options ++ [(optionAlias arg0, arg0 :: args)] }

/-- What a line of options does, once it is taken apart. -/
def Reader.addOption (r : Reader) : List Text → Reader
  | [] => r
  | arg0 :: args =>
    match startTag (stripDashes arg0) with
    | some argname => { r with mode := .inlinefile argname inlineTag }
    | none => { r with parser := r.parser.add (stripDashes arg0) args }

def Reader.addMeta (r : Reader) (metaarg : List Text) : Reader :=
  { r with parser := { r.parser with
      metaOptions := r.parser.metaOptions.put (metaarg.headD []) [metaarg] } }

/-- What a line does. -/
def Reader.line (r : Reader) (line : Text) : Call Reader :=
  match r.mode with
  | .options =>
    if startsWith line accessServer then .ok (r.addMeta (parsemeta line))
    else r.addOption <$> parseline line
  | .inlinefile argname inlinefile =>
    if trim line = endtag argname then
      .ok { parser := r.parser.add argname [closeInline inlinefile], mode := .options }
    else .ok { r with mode := .inlinefile argname (inlinefile ++ line ++ ['\n']) }

def Reader.lines (r : Reader) (ls : List Text) : Call Reader := ls.foldlM Reader.line r

/-- The end of the text. -/
def Reader.close (r : Reader) : Call ConfigParser :=
  match r.mode with
  | .options => .ok r.parser
  | .inlinefile argname _ => .error (.configParse (noEndtag argname))

def Reader.start : Reader := ⟨⟨[], []⟩, .options⟩

def isZip (line : Text) : Bool :=
  startsWith line ['P', 'K', '\x03', '\x04'] || startsWith line ['P', 'K', '\x07', '\x00', '8']

def stripMark (line : Text) : Text := if startsWith line ['\uFEFF'] then line.drop 1 else line

/-- `ConfigParser.parseConfig`, of a parser that has read nothing before. -/
def parseConfig (text : Text) : Call ConfigParser :=
  match readLines text with
  | [] => .ok Reader.start.parser
  | l :: ls =>
    if isZip l then .error (.configParse zipMessage)
    else Reader.start.lines (stripMark l :: ls) >>= Reader.close

/-! ### How reading ends -/

lemma Reader.line_error {r : Reader} {l : Text} {e : Abrupt} (h : r.line l = .error e) :
    ∃ m, e = .configParse m := by
  unfold Reader.line at h
  split at h
  · split_ifs at h
    rw [map_eq_pure_bind] at h
    obtain h | ⟨_, -, h⟩ := bind_eq_error.1 h
    · exact ⟨_, parseline_error h⟩
    · cases h
  · split_ifs at h

lemma Reader.lines_error {r : Reader} {ls : List Text} {e : Abrupt} (h : r.lines ls = .error e) :
    ∃ m, e = .configParse m := by
  induction ls generalizing r with
  | nil => cases h
  | cons l ls ih =>
    rw [lines, List.foldlM_cons] at h
    obtain h | ⟨r', -, h⟩ := bind_eq_error.1 h
    · exact line_error h
    · exact ih h

/-- **Reading only refuses**: whatever the text, `parseConfig` ends with the parser or with a
`ConfigParseError`. -/
theorem parseConfig_error {text : Text} {e : Abrupt} (h : parseConfig text = .error e) :
    ∃ m, e = .configParse m := by
  unfold parseConfig at h
  split at h
  · cases h
  · split_ifs at h
    · cases h
      exact ⟨_, rfl⟩
    · obtain h | ⟨r, -, h⟩ := bind_eq_error.1 h
      · exact Reader.lines_error h
      · unfold Reader.close at h
        split at h
        · cases h
        · cases h
          exact ⟨_, rfl⟩

end BuludTechVPN.ParseConfig
