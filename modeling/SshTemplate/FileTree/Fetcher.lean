import SshTemplate.FileTree.Basic
import SshTemplate.Document.Fetcher
import SshTemplate.Logged
import SshTemplate.Web

/-!
# `FileTree.Fetcher` — included documents from files and servers

A file tree answers for paths and `file` addresses, and a client for `https` ones. One file has
endlessly many spellings — `./x`, `././x` — and each of them is a source of its own, so what bounds
the number of answers is not the number of files: it is that no path of `FileTree.pathLimit` bytes
or more leads anywhere. Servers know no such bound.
-/

set_option autoImplicit false

namespace SshTemplate
namespace FileTree

open Text

/-! ## Paths of bytes -/

/-- Why names lead nowhere that are not all texts: no entry has the first that is none. -/
def followBytes (tree : FileTree) : Place → List (List UInt8) → FileFault
  | _, [] => .notFound
  | place, name :: rest =>
    match String.fromUTF8? ⟨name.toArray⟩ with
    | none => if maxName < name.length then .nameTooLong else .notFound
    | some name =>
      match tree.enter place name with
      | .error fault => fault
      | .ok place => tree.followBytes place rest

/-- Why a path leads nowhere that is no text. -/
def bytesFault (tree : FileTree) (here : Place) (path : List UInt8) : FileFault :=
  if path.contains 0 then .nulInPath
  else if pathLimit ≤ path.length then .nameTooLong
  else tree.followBytes (if path.head? = some 0x2F then [] else here)
    ((splitOn 0x2F path).filter fun name => !name.isEmpty)

/-- The text of the file that a path of bytes leads to. -/
def readBytes (tree : FileTree) (here : Place) (path : List UInt8) : Except FileFault String :=
  match String.fromUTF8? ⟨path.toArray⟩ with
  | some path => tree.readText here path
  | none => .error (tree.bytesFault here path)

/-! ## The fetcher -/

/-- What comes back for a source, in the tree and from servers; relative paths start from `here`. -/
def fetch (tree : FileTree) (here : Place) (client : Client) :
    Source → Except FetchFailure String
  | .https address => client.fetch address
  | .file path => (tree.readBytes here path).mapError .file
  | .path path => (tree.readText here path).mapError .file

/-! ## Short texts are finitely many -/

/-- A text as a number: its characters are digits, none of them zero. -/
def textNumber : List Char → Nat
  | [] => 0
  | c :: rest => (c.toNat + 1) + 0x110001 * textNumber rest

theorem toNat_lt (c : Char) : c.toNat < 0x110000 := by
  have h := c.valid
  unfold UInt32.isValidChar Nat.isValidChar at h
  have : c.toNat = c.val.toNat := rfl
  omega

theorem textNumber_injective : ∀ {a b : List Char}, textNumber a = textNumber b → a = b
  | [], [], _ => rfl
  | [], c :: _, h => by unfold textNumber at h; omega
  | c :: _, [], h => by unfold textNumber at h; omega
  | c :: a, d :: b, h => by
    unfold textNumber at h
    have hc := toNat_lt c
    have hd := toNat_lt d
    have hn : c.toNat = d.toNat := by omega
    have hr : textNumber a = textNumber b := by omega
    rw [textNumber_injective hr, Char.toNat_inj.1 hn]

/-- More than there are texts of at most `n` characters. -/
def textCount (n : Nat) : Nat := Nat.pow 0x110001 n

theorem textNumber_lt {s : List Char} {n : Nat} (h : s.length ≤ n) :
    textNumber s < textCount n := by
  induction s generalizing n with
  | nil => exact Nat.pow_pos (by omega)
  | cons c rest ih =>
    obtain ⟨m, rfl⟩ : ∃ m, n = m + 1 := ⟨n - 1, by simp only [List.length_cons] at h; omega⟩
    have hr : textNumber rest < textCount m := ih (by simpa using h)
    have hc := toNat_lt c
    have hstep : textCount (m + 1) = textCount m * 0x110001 := rfl
    unfold textNumber
    omega

/-! ## How many answers there are -/

/-- More than there are texts that take fewer than `pathLimit` bytes. -/
def pathCount : Nat := textCount pathLimit

/-- A path that leads to an entry is not too long. -/
theorem byteLength_lt_of_find {tree : FileTree} {here : Place} {path : String}
    {found : Place × Entry} (h : tree.find here path = .ok found) :
    byteLength path.toList < pathLimit := by
  refine Nat.lt_of_not_le fun hle => ?_
  have hfault : ∃ fault, pathFault? path = some fault := by
    unfold pathFault?
    rw [if_pos hle]
    split
    · exact ⟨_, rfl⟩
    · split <;> exact ⟨_, rfl⟩
  obtain ⟨fault, hfault⟩ := hfault
  unfold find locate at h
  rw [hfault] at h
  simp [bind, Except.bind] at h

theorem find_of_readText {tree : FileTree} {here : Place} {path text : String}
    (h : tree.readText here path = .ok text) : ∃ found, tree.find here path = .ok found := by
  unfold readText at h
  cases hf : tree.find here path with
  | ok found => exact ⟨found, rfl⟩
  | error fault => rw [hf] at h; simp [bind, Except.bind] at h

/-- Bytes that lead to a file are no more than a path can have. -/
theorem length_lt_of_readBytes {tree : FileTree} {here : Place} {path : List UInt8}
    {reply : String} (h : tree.readBytes here path = .ok reply) : path.length < pathLimit := by
  unfold readBytes at h
  split at h
  · next name hname =>
    obtain ⟨found, hfound⟩ := find_of_readText h
    have hlt := byteLength_lt_of_find hfound
    have hsize : name.utf8ByteSize = path.length := by
      unfold String.fromUTF8? at hname
      split at hname
      · obtain rfl := Option.some.inj hname
        rfl
      · cases hname
    rwa [byteLength_toList, hsize] at hlt
  · cases h

/-- What is answered from the tree is shown in fewer characters than a path can have bytes. -/
theorem length_text_of_fetch {tree : FileTree} {here : Place} {client : Client} {source : Source}
    {reply : String} (h : tree.fetch here client source = .ok reply) :
    client.fetch source.text = .ok reply ∨ source.text.toList.length ≤ pathLimit := by
  cases source with
  | https address => exact Or.inl h
  | file path =>
    have hlt := length_lt_of_readBytes (eq_ok_of_mapError h)
    have hle := length_decodeLossy_le path
    refine Or.inr ?_
    rw [Source.text, String.toList_ofList]
    omega
  | path path =>
    obtain ⟨found, hfound⟩ := find_of_readText (eq_ok_of_mapError h)
    have hlt := byteLength_lt_of_find hfound
    have hle := length_le_byteLength path.toList
    refine Or.inr ?_
    rw [Source.text]
    omega

/-- Different texts that a path could have as well are fewer than `pathCount`. -/
theorem length_le_pathCount {texts : List String} (hnodup : texts.Nodup)
    (hshort : ∀ text ∈ texts, text.toList.length ≤ pathLimit) : texts.length ≤ pathCount := by
  have hnumbers : (texts.map fun text => textNumber text.toList).Nodup := by
    refine List.pairwise_map.2 (hnodup.imp fun {a b} hne heq => hne ?_)
    exact String.toList_inj.1 (textNumber_injective heq)
  have hsub : ∀ n ∈ texts.map fun text => textNumber text.toList, n ∈ List.range pathCount := by
    intro n hn
    obtain ⟨text, htext, rfl⟩ := List.mem_map.1 hn
    exact List.mem_range.2 (textNumber_lt (hshort text htext))
  have hle := Fetcher.length_le_of_nodup_of_subset hnumbers hsub
  rwa [List.length_map, List.length_range] at hle

/-- The fetcher of a tree and of servers that answer for at most `limit` addresses. -/
def fetcher (tree : FileTree) (here : Place) (client : Client) (limit : Nat)
    (hclient : client.Limited limit) : Fetcher where
  fetch := tree.fetch here client
  limit := pathCount + limit
  limited := by
    intro answered hnodup hanswered
    let known : String → Bool := fun text => (client.fetch text).isOk
    have hsplit : (answered.filter known).length + (answered.filter fun text => !known text).length =
        answered.length := by
      have hcount := List.length_eq_countP_add_countP known (l := answered)
      simp only [List.countP_eq_length_filter, Bool.not_eq_true, Bool.decide_eq_false] at hcount
      omega
    have hservers : (answered.filter known).length ≤ limit := by
      refine hclient _ (hnodup.filter _) fun text htext => ?_
      have hok := (List.mem_filter.1 htext).2
      cases hfetch : client.fetch text with
      | ok reply => exact ⟨reply, rfl⟩
      | error failure =>
        simp only [known, hfetch] at hok
        cases hok
    have hfiles : (answered.filter fun text => !known text).length ≤ pathCount := by
      refine length_le_pathCount (hnodup.filter _) fun text htext => ?_
      obtain ⟨hmem, hunknown⟩ := List.mem_filter.1 htext
      obtain ⟨source, reply, rfl, hreply⟩ := hanswered text hmem
      refine (length_text_of_fetch hreply).resolve_left fun hserved => ?_
      simp only [known, hserved] at hunknown
      cases hunknown
    omega

end FileTree
end SshTemplate
