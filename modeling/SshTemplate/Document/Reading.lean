import SshTemplate.Document.Basic
import SshTemplate.Document.Fetcher
import SshTemplate.Logged

/-!
# `Document.Reading` — documents from text

A document is read line by line, and an included document is read at the line that includes it. The
chain of documents being read travels along, outermost first: an include whose source is in the
chain is a cycle, an include of a document that was read to its end elsewhere is not.

Because every include adds a new answered source to the chain, the fetcher's `limit` bounds how deep
includes can nest, and `readWithin` recurses on that bound. Its last case is never reached from
`Document.read`.
-/

set_option autoImplicit false

namespace SshTemplate

/-- Reading asks for sources and may fail. -/
abbrev Reading := Logged Source Error

namespace Document

/-- What reading depends on outside the texts that are read: what a URL is, what `~` means — nothing
    if no home directory is known — and what comes back for a source. -/
structure Outside where
  readUrl : UrlReader
  home : Option String
  fetch : Source → Except FetchFailure String

/-- What a locator means. -/
def Outside.classify (out : Outside) (locator : String) : Except Refusal Source :=
  Source.classify out.readUrl out.home locator

/-- Where reading takes place: the same with a fetcher whose answers are limited. -/
structure Surroundings where
  readUrl : UrlReader
  home : Option String
  fetcher : Fetcher

def Surroundings.outside (around : Surroundings) : Outside :=
  ⟨around.readUrl, around.home, around.fetcher.fetch⟩

/-- The documents being read, outermost first, by the texts of their sources. -/
abbrev Chain := List String

/-- An included document before its first line: the text of its source, what it starts from, what
    was supplied to it, and its own text. -/
structure Opening where
  name : String
  start : Contents
  supplied : List String
  text : String

/-- Reads an included document; the chain ends with its name. -/
abbrev ReadChild := Chain → Opening → Reading Document

/-- What comes of an `@include` line before the included document is read: its locator and
    arguments are resolved, the source is classified, looked for in the chain, and asked for. -/
def openInclude (out : Outside) (chain : Chain) (own : Contents) (line : Nat) (source : String)
    (args : List String) : Reading Opening :=
  let locator := own.resolve source
  match out.classify locator with
  | .error refusal => .fail (.security own.locator locator refusal)
  | .ok source =>
    -- The chain is looked at first, so a cycle asks for nothing.
    if source.text ∈ chain then
      .fail (.parse own.locator line (.includeCycle (chain ++ [source.text])))
    else
      (Logged.note source).bind fun _ =>
        match out.fetch source with
        | .error (.refused status) => .fail (.security own.locator locator (.httpStatus status))
        | .error failure => .fail (.fetch own.locator locator failure)
        | .ok text =>
          .pure ⟨source.text, .start locator true own.keys, args.map own.resolve, text⟩

/-- The document with one more included document. -/
def addInclude (document child : Document) : Document :=
  { document with includes := document.includes ++ [child] }

/-- Reads one line that is not ignored. -/
def readLine (out : Outside) (readChild : ReadChild) (chain : Chain)
    (supplied : Option (List String)) (line : Nat) (raw : String) (document : Document) :
    Reading Document :=
  let own := document.contents
  match Directive.read raw with
  | .error issue => .fail (.parse own.locator line issue)
  | .ok (.includes source args) =>
    (openInclude out chain own line source args).bind fun opening =>
      (readChild (chain ++ [opening.name]) opening).bind fun child =>
        .pure (document.addInclude child)
  | .ok directive =>
    match own.obey supplied directive with
    | .error issue => .fail (.parse own.locator line issue)
    | .ok own => .pure { document with contents := own }

/-- Reads lines, the first of which has the number `line`. -/
def readLines (out : Outside) (readChild : ReadChild) (chain : Chain)
    (supplied : Option (List String)) (line : Nat) : List String → Document → Reading Document
  | [], document => .pure document
  | raw :: rest, document =>
    if Line.isRemark raw then readLines out readChild chain supplied (line + 1) rest document
    else
      (readLine out readChild chain supplied line raw document).bind
        (readLines out readChild chain supplied (line + 1) rest)

/-- Reads a text in which includes may nest to less than `depth`. -/
def readWithin (out : Outside) : Nat → Chain → Contents → Option (List String) → String →
    Reading Document
  | 0, chain, own, _, _ => .fail (.parse own.locator 0 (.includeCycle chain))
  | depth + 1, chain, own, supplied, text =>
    readLines out
      (fun chain opening =>
        readWithin out depth chain opening.start (some opening.supplied) opening.text)
      chain supplied 1 (Text.lines text) ⟨own, []⟩

/-- The text under which a document that was not included stands in the chain. -/
def topText (out : Outside) (locator : String) : String :=
  match out.classify locator with
  | .ok source => source.text
  | .error _ => locator

/-- Reads a document with everything it includes. -/
def read (around : Surroundings) (locator text : String) : Reading Document :=
  readWithin around.outside (around.fetcher.limit + 1) [topText around.outside locator]
    (.start locator false .empty) none text

/-- Whether reading broke off because includes nest too deep. In all other errors lines count from
    one. -/
def brokeOff {α : Type} (reading : Reading α) : Bool :=
  match reading.outcome with
  | .error (.parse _ 0 _) => true
  | _ => false

/-- Reads a document with everything it includes, unless more than `depth` documents have to be read
    one inside another. Nothing is assumed about the answers. -/
def readUpTo (out : Outside) (depth : Nat) (locator text : String) : Option (Reading Document) :=
  let reading := readWithin out depth [topText out locator] (.start locator false .empty) none text
  if brokeOff reading then none else some reading

end Document
end SshTemplate
