import CrowdSecBouncer.Foundations.Lowercase
import CrowdSecBouncer.Http.Config
import Mathlib.Data.List.Infix

/-!
# Response templates

Ban pages, captcha pages and JSON answers are templates with placeholders `{{name}}`. A template
is parsed once, into segments of text and variables, and rendered with the variables of a request;
how a value is escaped depends on the content type, and on the extension of the file through it.
The two nested loops of the parser are one scan in two modes here: inside a text, and inside the
name of a variable.
-/

namespace CrowdSecBouncer

namespace Pages

open Text

/-- The entity of a character with a special meaning in HTML. -/
def escapeHtmlChar (c : Char) : List Char :=
  if c = '&' then "&amp;".toList
  else if c = '<' then "&lt;".toList
  else if c = '>' then "&gt;".toList
  else if c = '"' then "&quot;".toList
  else if c = '\'' then "&#x27;".toList
  else [c]

/-- Escape a string for safe inclusion in HTML content. -/
def escapeHtml (s : List Char) : List Char := s.flatMap escapeHtmlChar

/-- The Unicode category Cc. -/
def isControl (c : Char) : Bool := c.toNat < 0x20 || (0x7F ≤ c.toNat && c.toNat < 0xA0)

/-- A code in at least four digits of lower-case hexadecimal; the control characters have no
more. -/
def hexDigits4 (n : ℕ) : List Char :=
  [Nat.digitChar (n / 4096), Nat.digitChar (n / 256 % 16), Nat.digitChar (n / 16 % 16),
    Nat.digitChar (n % 16)]

/-- The escape of a character in a JSON string. -/
def escapeJsonChar (c : Char) : List Char :=
  if c = '"' then ['\\', '"']
  else if c = '\\' then ['\\', '\\']
  else if c = '\n' then ['\\', 'n']
  else if c = '\r' then ['\\', 'r']
  else if c = '\t' then ['\\', 't']
  -- other control characters
  else if isControl c then '\\' :: 'u' :: hexDigits4 c.toNat
  else [c]

/-- Escape a string for safe inclusion in JSON string values. -/
def escapeJson (s : List Char) : List Char := s.flatMap escapeJsonChar

/-- Escape mode for variable substitution. -/
inductive EscapeMode
  | html
  | json
  | xml
  | none
  deriving DecidableEq, Repr

/-- Static text or a variable placeholder. -/
inductive TemplateSegment
  | text (t : List Char)
  | variable (name : List Char)
  deriving DecidableEq, Repr

/-- Parsed response template. -/
structure Template where
  segments : List TemplateSegment
  contentType : List Char
  escapeMode : EscapeMode
  deriving DecidableEq, Repr

/-- `str::contains`. -/
def containsText (cs pattern : List Char) : Bool := decide (pattern <:+: cs)

/-- Detect escape mode from content type string. -/
def escapeModeFromContentType (contentType : List Char) : EscapeMode :=
  let ctLower := toLowercase contentType
  if containsText ctLower "text/html".toList || containsText ctLower "application/xhtml".toList then
    .html
  else if containsText ctLower "application/json".toList then .json
  else if containsText ctLower "application/xml".toList ||
      containsText ctLower "text/xml".toList then .xml
  else if containsText ctLower "text/plain".toList then .none
  -- default to HTML escaping for safety
  else .html

/-- Where the scan of a template is, with the text or the name it has collected. -/
inductive ScanMode
  | text (currentText : List Char)
  | name (varName : List Char)
  deriving DecidableEq, Repr

/-- The text collected so far as a segment, if there is any. -/
def textSegment (currentText : List Char) : List TemplateSegment :=
  if currentText = [] then [] else [.text currentText]

/-- The segments of the rest of a template. -/
def scanSegments : ScanMode → List Char → List TemplateSegment
  | .text currentText, '{' :: '{' :: cs =>
    textSegment currentText ++ scanSegments (.name []) cs
  | .text currentText, c :: cs => scanSegments (.text (currentText ++ [c])) cs
  | .text currentText, [] => textSegment currentText
  | .name varName, '}' :: '}' :: cs =>
    if trim varName ≠ [] then .variable (trim varName) :: scanSegments (.text []) cs
    -- invalid syntax, treat as literal text
    else scanSegments (.text (['{', '{'] ++ varName)) cs
  | .name varName, c :: cs => scanSegments (.name (varName ++ [c])) cs
  | .name varName, [] => textSegment (['{', '{'] ++ varName ++ ['}'])

/-- Parse a template string with a specific content type. -/
def Template.parseWithContentType (content contentType : List Char) : Template where
  segments := scanSegments (.text []) content
  contentType := contentType
  escapeMode := escapeModeFromContentType contentType

/-- Detect content type from file extension. -/
def contentTypeFromExtension (extension : Option (List Char)) : List Char :=
  if extension = some "json".toList then "application/json; charset=utf-8".toList
  else if extension = some "xml".toList then "application/xml; charset=utf-8".toList
  else if extension = some "txt".toList then "text/plain; charset=utf-8".toList
  else "text/html; charset=utf-8".toList

/-- Load and parse a template from a file with the given extension and contents. -/
def Template.fromFile (extension : Option (List Char)) (file : Except (List Char) (List Char)) :
    Except (List Char) Template :=
  match file with
  | .error e => .error ("Failed to read template file: ".toList ++ e)
  | .ok content => .ok (.parseWithContentType content (contentTypeFromExtension extension))

/-- Available template variables. -/
structure TemplateVariables where
  clientIp : Option (List Char) := none
  requestUri : Option (List Char) := none
  requestMethod : Option (List Char) := none
  scenario : Option (List Char) := none
  origin : Option (List Char) := none
  host : Option (List Char) := none
  captchaSiteKey : Option (List Char) := none
  captchaScriptUrl : Option (List Char) := none
  captchaDivClass : Option (List Char) := none
  captchaError : Option (List Char) := none
  formAction : Option (List Char) := none
  deriving DecidableEq, Repr

/-- Get a variable value by name. -/
def TemplateVariables.get (vars : TemplateVariables) (name : List Char) : Option (List Char) :=
  if name = "client_ip".toList then vars.clientIp
  else if name = "request_uri".toList then vars.requestUri
  else if name = "request_method".toList then vars.requestMethod
  else if name = "scenario".toList then vars.scenario
  else if name = "origin".toList then vars.origin
  else if name = "host".toList then vars.host
  else if name = "captcha_site_key".toList then vars.captchaSiteKey
  else if name = "captcha_script_url".toList then vars.captchaScriptUrl
  else if name = "captcha_div_class".toList then vars.captchaDivClass
  else if name = "captcha_error".toList then vars.captchaError
  else if name = "form_action".toList then vars.formAction
  else none

/-- A value as it is written into the page. -/
def EscapeMode.escape : EscapeMode → List Char → List Char
  | .html, value => escapeHtml value
  | .json, value => escapeJson value
  | .xml, value => escapeHtml value
  | .none, value => value

/-- The value of a variable, empty if there is none. -/
def TemplateVariables.value (vars : TemplateVariables) (name : List Char) : List Char :=
  (vars.get name).getD []

/-- What a segment is rendered to. -/
def renderSegment (mode : EscapeMode) (vars : TemplateVariables) : TemplateSegment → List Char
  | .text t => t
  | .variable name => mode.escape (vars.value name)

/-- Render the template with variable substitutions. -/
def Template.render (template : Template) (vars : TemplateVariables) : List Char :=
  template.segments.flatMap (renderSegment template.escapeMode vars)

/-- The content type has the name in it, in any case. -/
def NamesType (contentType name : List Char) : Prop := name <:+: toLowercase contentType

instance (contentType name : List Char) : Decidable (NamesType contentType name) :=
  inferInstanceAs (Decidable (_ <:+: _))

theorem containsText_eq_true_iff {contentType : List Char} (name : List Char) :
    containsText (toLowercase contentType) name = true ↔ NamesType contentType name :=
  decide_eq_true_iff

/-- The configured template of a location, parsed. -/
def Template.ofConfig (template : CrowdSecBouncer.Template) : Template :=
  .parseWithContentType template.source.toList template.contentType.toList

example : (Template.parseWithContentType
      "\x7b\"uri\": \"\x7b\x7brequest_uri\x7d\x7d\"\x7d".toList "application/json".toList).render
        { requestUri := some "/path\"with\"quotes".toList } =
    "\x7b\"uri\": \"/path\\\"with\\\"quotes\"\x7d".toList := by decide +kernel

end Pages

end CrowdSecBouncer
