import SshTemplate.Text.Quoted
import SshTemplate.FileFault

/-!
# `Issue` — what can be wrong, and where

Three layers, because they are decided at three different times. An `Issue` is a cause found in the
text itself and knows no place. An `Error` is what stops the work: an issue (or a refusal, a
failure to read, a line that cannot be written) together with the place it belongs to — a document
and a line while reading, a document and a section while rendering. A `Warning` stops nothing.

Causes are constructors; their wording is in one function each, so that a statement about *when*
something goes wrong never mentions text.
-/

set_option autoImplicit false

namespace SshTemplate

/-! ## Causes found in the text -/

inductive Issue where
  /-- A directive with the wrong number of arguments: the form it should have, and the arguments
      it has. -/
  | usage (form : String) (found : List String)
  /-- A keyword starts with `@` and names no directive. -/
  | unknownDirective (keyword : String)
  | quoteWithinArgument
  | unterminatedQuote
  /-- `@is` before the first section. -/
  | isOnRoot
  /-- `@with` declarations are waiting for a host, and a bundle opens. -/
  | withOnHostAttrs
  /-- `@is` names more than one section. -/
  | duplicateSection (name : String)
  /-- `@is` names no section. -/
  | noSuchSection (name : String)
  | rangeFormat (token : String)
  | rangeNotInteger (token : String)
  /-- `@args` names another number of arguments than the including document supplied. -/
  | missingArguments (document : String) (expected : List String) (supplied : Nat)
  | unresolvedVariable (name : String)
  /-- The documents being read, outermost first, and the one that would be read again. -/
  | includeCycle (chain : List String)
  deriving DecidableEq

def Issue.message : Issue → String
  | usage form found => "usage: " ++ form ++ " (got: " ++ Text.quotedList found ++ ")"
  | unknownDirective keyword => "unknown expansion keyword " ++ keyword
  | quoteWithinArgument => "quotation marks cannot be used within an argument value"
  | unterminatedQuote => "unterminated quotation marks"
  | isOnRoot => "cannot set an @is type on root scope"
  | withOnHostAttrs => "@with not supported with @HostAttrs"
  | duplicateSection name => "more than one section with name '" ++ name ++ "'"
  | noSuchSection name => "no such section: " ++ name
  | rangeFormat token =>
    "range should be format \x7bA..B\x7d or \x7bA..B/C\x7d: '" ++ token ++ "'"
  | rangeNotInteger token => "expected an integer in range definition: '" ++ token ++ "'"
  | missingArguments document expected _ =>
    "required arguments not passed to include " ++ document ++
      " (" ++ ", ".intercalate expected ++ ")"
  | unresolvedVariable name => "variable <" ++ name ++ "> is not defined"
  | includeCycle chain => "include cycle: " ++ " -> ".intercalate chain

/-! ## Causes outside the text -/

/-- Why an include is refused although its source could be named. -/
inductive Refusal where
  /-- Only paths, `https` and `file` addresses may be included. -/
  | disallowedScheme (scheme : String)
  /-- The server answered with a status that is no success. -/
  | httpStatus (status : Nat)
  deriving DecidableEq

def Refusal.message : Refusal → String
  | disallowedScheme scheme =>
    "@include may only use paths or https:// or file:// URLs (found scheme '" ++ scheme ++ "')"
  | httpStatus status => "HTTP status " ++ toString status ++ ": refusing to use contents"

/-- A line that has no form in an ssh configuration. -/
inductive Unwritable where
  /-- Several arguments are written without quotes, so none may hold one. -/
  | quoteInArgument (keyword argument : String)
  deriving DecidableEq

def Unwritable.message : Unwritable → String
  | quoteInArgument keyword argument =>
    "quotation marks may not be used in arguments (" ++ keyword ++ " " ++ argument ++ ")"

/-- Why no text came back for a source. -/
inductive FetchFailure where
  | file (fault : FileFault)
  /-- No answer to a request could be had; what lies behind that, nearest cause first. -/
  | request (causes : List String)
  /-- A server answered with a status that is no success. -/
  | refused (status : Nat)
  deriving DecidableEq

def FetchFailure.message : FetchFailure → String
  | file _ => "IO error"
  | request _ => "HTTP request failed"
  | refused status => "server answered with HTTP status " ++ toString status

/-- What lies behind a failure, nearest cause first. -/
def FetchFailure.causes : FetchFailure → List String
  | file fault => [fault.message]
  | request causes => causes
  | refused _ => []

/-- The messages of a failure and of what lies behind it, outermost first. -/
def FetchFailure.report (failure : FetchFailure) : List String := failure.message :: failure.causes

/-! ## Errors: causes with their place -/

inductive Error where
  /-- Malformed input in a line of a document; lines count from one. -/
  | parse (locator : String) (line : Nat) (issue : Issue)
  /-- Malformed input that shows when a section is expanded. -/
  | resolve (locator : String) (sectionName : String) (issue : Issue)
  /-- An include of the document was refused. -/
  | security (locator : String) (included : String) (refusal : Refusal)
  /-- A line of a section cannot be written. -/
  | output (locator : String) (sectionName : String) (cause : Unwritable)
  /-- An include of the document could not be read. -/
  | fetch (locator : String) (included : String) (failure : FetchFailure)
  deriving DecidableEq

def Error.message : Error → String
  | parse locator line issue =>
    locator ++ ", line " ++ toString line ++ ": " ++ issue.message
  | resolve locator name issue => locator ++ ", section '" ++ name ++ "': " ++ issue.message
  | security locator included refusal =>
    locator ++ ": refusing to include '" ++ included ++ "': " ++ refusal.message
  | output locator name cause => locator ++ ", section '" ++ name ++ "': " ++ cause.message
  | fetch locator included _ => locator ++ ": unable to read include '" ++ included ++ "'"

/-- The messages of an error and of everything behind it, outermost first. -/
def Error.report : Error → List String
  | fetch locator included failure =>
    (fetch locator included failure).message :: failure.report
  | error => [error.message]

/-! ## Warnings -/

inductive Warning where
  /-- `@identity` names an identity that no `@key` defines. -/
  | undefinedIdentity (locator identity : String)
  /-- None of the identity's fingerprints is in the key library. -/
  | identityNotFound (locator identity : String) (fingerprints : List String)
  /-- Global lines of an included document, dropped; one warning holds them all. -/
  | ignoredGlobals (locator : String) (lines : List String)
  /-- Host names of the document that it or an earlier one has emitted before. -/
  | duplicateHosts (locator : String) (hosts : List String)
  deriving DecidableEq

def Warning.message : Warning → String
  | undefinedIdentity locator identity =>
    locator ++ ": identity '" ++ identity ++ "' is not defined (missing @key definition)"
  | identityNotFound locator identity fingerprints =>
    locator ++ ": identity '" ++ identity ++ "' (fingerprints " ++
      "; ".intercalate fingerprints ++ ") not found in SSH key library"
  | ignoredGlobals locator lines =>
    "global config in @include '" ++ locator ++ "' ignored.\nIgnored lines are:" ++
      String.join (lines.map ("\n > " ++ ·))
  | duplicateHosts locator hosts =>
    "duplicated hosts parsing '" ++ locator ++ "': " ++ ", ".intercalate hosts

end SshTemplate
