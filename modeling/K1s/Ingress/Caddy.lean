import K1s.Lib.Dictionary
import K1s.Py.Text

/-!
# Site files of Caddy

`CaddyIngressManager` in `ingress/caddy.py` keeps one file for each app with an ingress,
which it renders from the ingress of the manifest, the upstreams and a weight.  A file of
another app for the same host is moved away.
-/

namespace K1s
namespace Ingress

open Py

/-! ## Text -/

/-- The characters that end a line of `splitlines`. -/
def isLineEnd (character : Char) : Bool :=
  decide (character.toNat ∈ [10, 11, 12, 13, 28, 29, 30, 133, 8232, 8233])

/-- `text.splitlines()`, up to empty lines. -/
def splitLines (text : String) : List String :=
  (text.toList.splitOnP isLineEnd).map String.ofList

/-- `text.split(separator, 1)` for one character, if it occurs. -/
def splitOnce (separator : Char) (text : String) : Option (String × String) :=
  if separator ∈ text.toList then
    some (String.ofList (text.toList.takeWhile (· ≠ separator)),
      String.ofList ((text.toList.dropWhile (· ≠ separator)).drop 1))
  else none

def occursIn (part text : String) : Bool :=
  decide (part.toList <:+: text.toList)

/-- `repr` of a text, with the characters outside ASCII as they are. -/
def reprText (text : String) : String :=
  let quote := if '\'' ∈ text.toList ∧ '"' ∉ text.toList then '"' else '\''
  let hex := fun (digit : Nat) => Nat.digitChar digit
  let shown := text.toList.flatMap fun character =>
    if character = quote ∨ character = '\\' then ['\\', character]
    else if character = '\n' then ['\\', 'n']
    else if character = '\r' then ['\\', 'r']
    else if character = '\t' then ['\\', 't']
    else if character.toNat < 32 ∨ character.toNat = 127 then
      ['\\', 'x', hex (character.toNat / 16), hex (character.toNat % 16)]
    else [character]
  String.ofList ([quote] ++ shown ++ [quote])

/-- `repr` of a tuple of texts. -/
def reprTuple : List String → String
  | [] => "()"
  | [text] => "(" ++ reprText text ++ ",)"
  | texts => "(" ++ String.intercalate ", " (texts.map reprText) ++ ")"

/-! ## Rendering -/

/-- The fields of an ingress that are read. -/
structure IngressSpec where
  host : String
  path : String
  paths : List String
  tlsSecretName : Option String
  tlsCertPath : Option String
  tlsKeyPath : Option String
  deriving DecidableEq

/-- The settings of the manager and of its environment. -/
structure CaddyConfig where
  container : Option String
  containerCli : String
  /-- `AE_CADDY_HOST_ALIAS`. -/
  hostAlias : String
  /-- `AE_CADDY_ACTIVE_HEALTH` is `1`. -/
  activeHealth : Bool

/-- What a site is rendered from. -/
structure SiteInput where
  ingress : IngressSpec
  upstreams : List String
  readinessPath : Option String
  firstWeight : Int
  deriving DecidableEq

def present (text : Option String) : Bool := text.any (· ≠ "")

variable (config : CaddyConfig)

/-- Where an upstream is reached from: a loopback address through the alias of the host,
if Caddy runs in a container. -/
def upstreamTarget (upstream : String) : String :=
  let (hostPart, portPart) := (splitOnce ':' upstream).getD (upstream, "")
  let podman := decide (config.containerCli = "podman")
  if present config.container ∧ portPart ≠ "" then
    if hostPart = "127.0.0.1" ∨ hostPart = "0.0.0.0" then
      let hostAlias :=
        if config.hostAlias ≠ "" then config.hostAlias
        else if podman then "host.containers.internal"
        else "host.docker.internal"
      hostAlias ++ ":" ++ portPart
    else if hostPart = "host.docker.internal" ∧ podman then
      "host.containers.internal:" ++ portPart
    else if hostPart = "host.containers.internal" ∧ podman = false then
      "host.docker.internal:" ++ portPart
    else upstream
  else upstream

/-- The targets of a site, with the first one repeated by its weight. -/
def siteTargets (input : SiteInput) : List String :=
  let targets := input.upstreams.map fun upstream =>
    let target := upstreamTarget config upstream
    if input.ingress.path ≠ "" ∧ input.ingress.path ≠ "/" then
      target ++ " " ++ input.ingress.path
    else target
  match targets with
  | [] => []
  | first :: rest =>
      if 1 < input.firstWeight then List.replicate input.firstWeight.toNat first ++ rest
      else first :: rest

/-- The body of a `reverse_proxy` block. -/
def proxyBlock (input : SiteInput) (closing : String) : String :=
  let healthBlock :=
    match input.readinessPath with
    | none => ""
    | some path =>
        if path ≠ "" ∧ config.activeHealth then
          "health_checks \x7b\n            path " ++ path ++
            "\n            interval 10s\n            timeout 2s\n        \x7d\n"
        else ""
  "reverse_proxy " ++ String.intercalate " " (siteTargets config input) ++ " \x7b\n" ++
    healthBlock ++ "lb_policy first\n" ++ closing

def pathRoute (input : SiteInput) (path : String) : String :=
  if path = "" ∨ path = "/" then proxyBlock config input "\x7d"
  else
    "handle_path " ++ path ++ " \x7b\n    " ++ proxyBlock config input "    \x7d\n\x7d"

/-- `_render_site`, with `prefer_first`. -/
def renderSite (input : SiteInput) : String :=
  let routes :=
    if input.ingress.paths = [] then proxyBlock config input "\x7d"
    else String.intercalate "\n    " (input.ingress.paths.map (pathRoute config input))
  let tlsBlock :=
    match input.ingress.tlsCertPath, input.ingress.tlsKeyPath with
    | some cert, some key =>
        if cert ≠ "" ∧ key ≠ "" then "tls " ++ cert ++ " " ++ key else "tls internal"
    | _, _ => "tls internal"
  "https://" ++ input.ingress.host ++ " \x7b\n    log \x7b\n        output stdout\n" ++
    "        format console\n    \x7d\n" ++
    "    # Ensure upstream HSTS does not stick during dev\n" ++
    "    header -Strict-Transport-Security\n    " ++ tlsBlock ++ "\n    " ++ routes ++ "\n\x7d\n"

/-! ## Files -/

/-- The files `*.caddy`, by their names without the ending. -/
abbrev Sites := Dictionary String String

/-- What stands after the first `://`. -/
def afterScheme : List Char → Option (List Char)
  | [] => none
  | ':' :: '/' :: '/' :: rest => some rest
  | _ :: rest => afterScheme rest

/-- `_normalize_caddy_site_label`. -/
def normalizeLabel (label : String) : String :=
  let stripped := strip label
  let bare := ((afterScheme stripped.toList).map String.ofList).getD stripped
  let host :=
    if bare.toList.count ':' = 1 then ((splitOnce ':' bare).map Prod.fst).getD bare else bare
  rstrip '.' (lower (strip host))

/-- The hosts that a line opens a block for, and the depth of the braces after it. -/
def siteHostsLine (state : List String × Nat) (line : String) : List String × Nat :=
  let stripped := strip line
  let opens := stripped ≠ "" ∧ startsWith "#" stripped = false ∧ state.2 = 0 ∧
    '\x7b' ∈ stripped.toList
  let found :=
    if opens then
      ((split ',' (((splitOnce '\x7b' stripped).map Prod.fst).getD stripped)).map
        normalizeLabel).filter (· ≠ "")
    else []
  (state.1 ++ found, state.2 + line.toList.count '\x7b' - line.toList.count '\x7d')

def caddySiteHosts (text : String) : List String :=
  ((splitLines text).foldl siteHostsLine ([], 0)).1

/-- `_workerbee_generated_site`. -/
def generatedSite (text : String) : Bool :=
  occursIn "Ensure upstream HSTS does not stick during dev" text && occursIn "reverse_proxy " text

/-- `_quarantine_duplicate_host_sites` moves this file away. -/
def isDuplicate (sites : Sites) (host keep name : String) : Bool :=
  decide (name ≠ keep) && decide (normalizeLabel host ≠ "") && (sites.find? name).any fun text =>
      decide (normalizeLabel host ∈ caddySiteHosts text) && generatedSite text

/-- How the calls of the file system go: they work; a file of another app is not moved,
after some others were; or the write fails and leaves the file as it was or with some
text. -/
inductive FileOutcome
  | works
  | moveFails (moved : List String)
  | writeFails (left : Option String)

def movedAway (sites : Sites) (host keep : String) (outcome : FileOutcome) (name : String) :
    Bool :=
  isDuplicate sites host keep name &&
    match outcome with
    | .moveFails moved => decide (name ∈ moved)
    | _ => true

/-- A file that should be moved away stays where it is: the call raises. -/
def moveRaises (sites : Sites) (host keep : String) (outcome : FileOutcome) : Bool :=
  (sites.entries.map Prod.fst).any fun name =>
    isDuplicate sites host keep name && !movedAway sites host keep outcome name

/-- `apply` of the manager: the files, and whether its own file has changed, `none` for an
exception. -/
def applySite (sites : Sites) (app : String) (input : SiteInput) (outcome : FileOutcome) :
    Sites × Option Bool :=
  let text := renderSite config input
  let kept := sites.keep fun name => !movedAway sites input.ingress.host app outcome name
  if moveRaises sites input.ingress.host app outcome then (kept, none)
  else if kept.find? app = some text then (kept, some false)
  else
    match outcome with
    | .writeFails none => (kept, none)
    | .writeFails (some left) => (kept.set app left, none)
    | _ => (kept.set app text, some true)

end Ingress
end K1s
