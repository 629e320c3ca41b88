import SshTemplate.Path
import SshTemplate.Issue
import SshTemplate.Text.Utf8

/-!
# `Source` — where an included document comes from

A locator is what an `@include` says; a source is what it means. Everything that is done with a
source is done with its `text`: it is what a fetcher is asked for, and it is what tells whether two
locators name one document — so the cycle check in `Document.Reading` compares texts, and a
document that has one text under every spelling cannot include itself unnoticed.

Only three kinds of source exist. A locator under any other scheme has no source at all, and is
refused before anything is fetched.

Which texts are URLs, and what these say, is not decided here: reading URLs is the work of a library,
and `classify` takes the reader as an argument.
-/

set_option autoImplicit false

namespace SshTemplate

/-- A URL, as far as it is asked about. -/
structure Url where
  /-- In lower case. -/
  scheme : String
  /-- The normal form, which is what it is shown as. -/
  text : String
  /-- The bytes of the path on this machine that it denotes, if it denotes one. -/
  localPath : Option (List UInt8)
  deriving DecidableEq

/-- Reads a text as a URL, if it is one by itself. -/
abbrev UrlReader := String → Option Url

inductive Source where
  /-- An `https` address in normal form. -/
  | https (address : String)
  /-- The bytes of the path that a `file` address denotes. They need not be a text. -/
  | file (path : List UInt8)
  /-- A locator that is no address. -/
  | path (path : String)
  deriving DecidableEq

namespace Source

/-- What a fetcher is asked for, and what is shown. Bytes that are no text are shown leniently. -/
def text : Source → String
  | https address => address
  | file location => String.ofList (Text.decodeLossy location)
  | path location => location

/-- `~` is the home directory, and `~/…` goes on from there; `~name` is an ordinary name, and so is
    `~` where no home directory is known. -/
def resolveTilde (home : Option String) (locator : String) : String :=
  match home, locator.toList with
  | some home, ['~'] => Path.join home ""
  | some home, '~' :: '/' :: rest => Path.join home (String.ofList rest)
  | _, _ => locator

/-- Decides what a locator means, with the home directory `home`. -/
def classify (read : UrlReader) (home : Option String) (locator : String) :
    Except Refusal Source :=
  match read locator with
  | none => .ok (.path (resolveTilde home locator))
  | some url =>
    if url.scheme = "https" then .ok (.https url.text)
    else if url.scheme = "file" then
      match url.localPath with
      | some location => .ok (.file location)
      | none => .error (.disallowedScheme "file")
    else .error (.disallowedScheme url.scheme)

end Source
end SshTemplate
