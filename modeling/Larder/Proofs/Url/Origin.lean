import Larder.Proofs.Text.Utf8
import Larder.Url.Basic
import Mathlib.Data.List.DropRight

namespace Larder.Url

structure Origin where
  scheme : List Char
  host : List Char
  port : Option (List Char)

structure Site where
  scheme : String
  host : String
  port : Option Nat
deriving DecidableEq, Repr

def IsBehind (path : String) : Prop :=
  ∀ c ∈ path.toList.head?, endsAuthority false c = true

def IsPlain (c : Char) : Prop :=
  0x20 < c.toNat ∧ c ∉ "/\\?#@:[]".toList

instance : DecidablePred IsPlain := fun c =>
  inferInstanceAs (Decidable (0x20 < c.toNat ∧ c ∉ "/\\?#@:[]".toList))

theorem forall_isPlain {chars : List Char} (all : chars.all (fun c => decide (IsPlain c)) = true) :
    ∀ c ∈ chars, IsPlain c :=
  fun c member => of_decide_eq_true (List.all_eq_true.mp all c member)

inductive IsHost : List Char → Prop
  | name {chars : List Char} (nonempty : chars ≠ []) (plain : ∀ c ∈ chars, IsPlain c) : IsHost chars
  | bracketed {inside : List Char} (plain : ∀ c ∈ inside, c = ':' ∨ IsPlain c) :
      IsHost ('[' :: inside ++ [']'])

def Site.url (site : Site) (pathAndQuery : String × Option String) : Url where
  scheme := site.scheme
  username := ""
  password := none
  host := some site.host
  port := site.port
  path := pathAndQuery.1
  query := pathAndQuery.2

namespace Origin

structure WellFormed (origin : Origin) : Prop where
  letter : ∃ first ∈ origin.scheme.head?, first.isAlpha = true
  scheme : ∀ c ∈ origin.scheme, isSchemeChar c = true
  host : IsHost origin.host
  port : ∀ digits ∈ origin.port, ∀ c ∈ digits, IsPlain c

variable (origin : Origin)

def schemeName : String :=
  String.ofList (origin.scheme.map Char.toLower)

def portPart : List Char :=
  origin.port.elim [] (':' :: ·)

def authority : List Char :=
  origin.host ++ origin.portPart

def text : String :=
  String.ofList (origin.scheme ++ ':' :: '/' :: '/' :: origin.authority)

/-- The site that an origin names. The port that a scheme has anyway is left out. -/
def site : Except UrlError Site := do
  let host ← readHost (isWeb origin.schemeName) origin.host
  let port ← readPort origin.portPart
  return ⟨origin.schemeName, host, if port == defaultPort? origin.schemeName then none else port⟩

end Origin

/-! ## Blanks at the end -/

def ending (chars : List Char) : List Char :=
  (chars.rdropWhile fun c => c.toNat ≤ 0x20).filter fun c => c != '\t' && c != '\n' && c != '\r'

theorem ending_append {front : List Char} (visible : ∀ c ∈ front, 0x20 < c.toNat) (rest : List Char) :
    ending (front ++ rest) = front ++ ending rest := by
  have kept : front.filter (fun c => c != '\t' && c != '\n' && c != '\r') = front := by
    rw [List.filter_eq_self]
    intro c member
    have above := visible c member
    simp only [bne_iff_ne, ne_eq, Bool.and_eq_true]
    refine ⟨⟨?_, ?_⟩, ?_⟩ <;> rintro rfl <;> exact absurd above (by decide)
  have stays : front.reverse.dropWhile (fun c => decide (c.toNat ≤ 0x20)) = front.reverse := by
    rw [List.dropWhile_eq_self_iff]
    intro nonempty
    have above := visible _ (List.mem_reverse.mp (List.getElem_mem nonempty))
    simpa using above
  unfold ending
  rw [List.rdropWhile, List.reverse_append, List.dropWhile_append, stays]
  split
  · rename_i dropped
    have none : rest.rdropWhile (fun c => decide (c.toNat ≤ 0x20)) = [] := by
      rw [List.rdropWhile, List.isEmpty_iff.mp dropped]
      rfl
    rw [none, List.reverse_reverse, kept]
    simp
  · rw [List.reverse_append, List.reverse_reverse, List.filter_append, kept]
    rfl

theorem cleaned_eq_ending {text : String} {first : Char} (head : text.toList.head? = some first)
    (visible : 0x20 < first.toNat) : cleaned text = ending text.toList := by
  obtain ⟨rest, split⟩ := List.head?_eq_some_iff.mp head
  have stays : text.toList.dropWhile (fun c => decide (c.toNat ≤ 0x20)) = text.toList := by
    rw [split, List.dropWhile_cons_of_neg (by simpa using visible)]
  unfold cleaned
  dsimp only
  rw [stays]
  rfl

theorem isBehind_ending {path : String} (isBehind : IsBehind path) :
    ∀ c ∈ (ending path.toList).head?, endsAuthority false c = true := by
  cases chars : path.toList with
  | nil => exact fun c first => nomatch first
  | cons c rest =>
      have ends : endsAuthority false c = true := isBehind c (by rw [chars]; rfl)
      have visible : 0x20 < c.toNat := by
        simp only [endsAuthority, Bool.false_and, Bool.or_false, Bool.or_eq_true, beq_iff_eq] at ends
        obtain (rfl | rfl) | rfl := ends <;> decide
      have kept : ending (c :: rest) = c :: ending rest := @ending_append [c] (by simpa using visible) rest
      rw [kept]
      intro d first
      obtain rfl := Option.some.inj first
      exact ends

/-! ## The parts of an origin -/

theorem visible_of_isSchemeChar {c : Char} (allowed : isSchemeChar c = true) : 0x20 < c.toNat := by
  have blanks : ∀ code < 0x21, isSchemeChar (Char.ofNat code) = false := by decide
  apply Nat.lt_of_not_le
  intro blank
  have refused := blanks c.toNat (Nat.lt_succ_of_le blank)
  rw [Char.ofNat_toNat, allowed] at refused
  cases refused

theorem endsAuthority_mono {web : Bool} {c : Char} (ends : endsAuthority false c = true) :
    endsAuthority web c = true := by
  simp only [endsAuthority, Bool.false_and, Bool.or_false] at ends
  simp [endsAuthority, ends]

theorem splitUser_of_not_mem {chars : List Char} (absent : '@' ∉ chars) : splitUser chars = ([], chars) := by
  have whole : chars.reverse.takeWhile (· != '@') = chars.reverse := by
    rw [List.takeWhile_eq_self_iff]
    intro c member
    simpa using ne_of_mem_of_not_mem (List.mem_reverse.mp member) absent
  unfold splitUser
  rw [whole, List.reverse_reverse]
  exact if_pos rfl

theorem splitPort_of_bracketed {inside : List Char} (unclosed : ∀ c ∈ inside, c ≠ ']') (rest : List Char) :
    splitPort true (inside ++ ']' :: rest) =
      (inside ++ ']' :: (splitPort false rest).1, (splitPort false rest).2) := by
  induction inside with
  | nil => simp [splitPort]
  | cons c inside ih =>
      obtain ⟨notClosed, later⟩ := List.forall_mem_cons.mp unclosed
      have opened : (c == '[' || true && c != ']') = true := by simp [notClosed]
      rw [List.cons_append, splitPort, opened, ih later]
      simp

theorem splitPort_of_plain {name : List Char} (plain : ∀ c ∈ name, c ≠ ':' ∧ c ≠ '[') (rest : List Char) :
    splitPort false (name ++ rest) = (name ++ (splitPort false rest).1, (splitPort false rest).2) := by
  induction name with
  | nil => rfl
  | cons c name ih =>
      obtain ⟨⟨noColon, notOpened⟩, later⟩ := List.forall_mem_cons.mp plain
      have unopened : (c == '[' || false && c != ']') = false := by simp [notOpened]
      rw [List.cons_append, splitPort, unopened, ih later]
      simp [noColon]

namespace IsPlain

variable {c : Char}

theorem ne (plain : IsPlain c) {special : Char} (member : special ∈ "/\\?#@:[]".toList) : c ≠ special :=
  fun same => plain.2 (same ▸ member)

theorem not_endsAuthority (plain : IsPlain c) (web : Bool) : endsAuthority web c = false := by
  have slash : c ≠ '/' := plain.ne (by decide)
  have question : c ≠ '?' := plain.ne (by decide)
  have hash : c ≠ '#' := plain.ne (by decide)
  have backslash : c ≠ '\\' := plain.ne (by decide)
  simp [endsAuthority, slash, question, hash, backslash]

end IsPlain

def IsInner (c : Char) : Prop :=
  0x20 < c.toNat ∧ c ≠ '@' ∧ ∀ web, endsAuthority web c = false

theorem IsPlain.isInner {c : Char} (plain : IsPlain c) : IsInner c :=
  ⟨plain.1, plain.ne (by decide), plain.not_endsAuthority⟩

theorem IsHost.isInner {host : List Char} (isHost : IsHost host) : ∀ c ∈ host, IsInner c := by
  cases isHost with
  | name _ plain => exact fun c member => (plain c member).isInner
  | bracketed plain =>
      intro c member
      have mark {special : Char} (one : special = '[' ∨ special = ':' ∨ special = ']') : IsInner special := by
        obtain rfl | rfl | rfl := one <;> exact ⟨by decide, by decide, by decide⟩
      rcases List.mem_append.mp member with front | last
      · rcases List.mem_cons.mp front with rfl | inner
        · exact mark (.inl rfl)
        · rcases plain c inner with rfl | plain
          · exact mark (.inr (.inl rfl))
          · exact plain.isInner
      · rw [List.mem_singleton.mp last]
        exact mark (.inr (.inr rfl))

theorem IsHost.splitPort_append {host : List Char} (isHost : IsHost host) (rest : List Char) :
    splitPort false (host ++ rest) = (host ++ (splitPort false rest).1, (splitPort false rest).2) := by
  cases isHost with
  | name _ plain =>
      exact splitPort_of_plain (fun c member =>
        ⟨(plain c member).ne (by decide), (plain c member).ne (by decide)⟩) rest
  | @bracketed inside plain =>
      have unclosed : ∀ c ∈ inside, c ≠ ']' := by
        intro c member
        rcases plain c member with rfl | plain
        · decide
        · exact plain.ne (by decide)
      have later := splitPort_of_bracketed unclosed rest
      simp [splitPort, later]

/-! ## Hosts that are read -/

theorem lenientAddress_ne_empty {domain : List Char} {address : Net.Address}
    (meant : lenientAddress? domain = some address) : address.toText ≠ "" := by
  unfold lenientAddress? at meant
  simp only [Option.bind_eq_bind, Option.bind_eq_some_iff, Option.pure_def, Option.some.injEq] at meant
  obtain ⟨_, _, _, _, rfl⟩ := meant
  simp [Net.Address.toText, String.intercalate_cons_cons]

theorem bracketedHost_ne_empty {chars : List Char} {host : String} (read : bracketedHost chars = .ok host) :
    host ≠ "" := by
  unfold bracketedHost at read
  split at read
  · split at read
    · cases read
      simp
    · cases read
  · cases read

theorem webHost_ne_empty {chars : List Char} {host : String} (read : webHost chars = .ok host) :
    host ≠ "" := by
  unfold webHost at read
  dsimp only at read
  split at read
  · cases read
  · split at read
    · cases read
    · rename_i nonempty
      split at read
      · split at read
        · rename_i meant
          cases read
          exact lenientAddress_ne_empty meant
        · cases read
      · cases read
        simpa using nonempty

theorem percentEncode_ne_nil {special : Char → Bool} {chars : List Char} (nonempty : chars ≠ []) :
    percentEncode special chars ≠ [] := by
  obtain ⟨c, rest, rfl⟩ := List.exists_cons_of_ne_nil nonempty
  rw [percentEncode, List.flatMap_cons]
  split
  · obtain ⟨byte, more, bytes⟩ := List.exists_cons_of_ne_nil (String.utf8EncodeChar_ne_nil (c := c))
    simp [Text.Utf8.encode_eq, bytes, percentByte]
  · simp

theorem readHost_ne_empty {web : Bool} {chars : List Char} {host : String} (nonempty : chars ≠ [])
    (read : readHost web chars = .ok host) : host ≠ "" := by
  unfold readHost at read
  split at read
  · exact bracketedHost_ne_empty read
  · split at read
    · exact webHost_ne_empty read
    · unfold plainHost at read
      split at read
      · cases read
      · cases read
        simpa using percentEncode_ne_nil nonempty

theorem IsHost.ne_nil {host : List Char} (isHost : IsHost host) : host ≠ [] := by
  cases isHost with
  | name nonempty _ => exact nonempty
  | bracketed _ => exact List.cons_ne_nil _ _

/-! ## Reading an origin -/

namespace Origin

variable {origin : Origin}

def Names (origin : Origin) (url : Url) : Prop :=
  ∃ site, origin.site = .ok site ∧ url.scheme = site.scheme ∧ url.host = some site.host ∧ url.port = site.port

theorem splitPort_portPart : splitPort false origin.portPart = ([], origin.portPart) := by
  unfold portPart
  cases origin.port with
  | none => rfl
  | some digits => simp [splitPort]

theorem WellFormed.isInner (wellFormed : origin.WellFormed) : ∀ c ∈ origin.authority, IsInner c := by
  intro c member
  rcases List.mem_append.mp member with inHost | inPort
  · exact wellFormed.host.isInner c inHost
  · unfold portPart at inPort
    cases port : origin.port with
    | none => simp [port] at inPort
    | some digits =>
        rw [port] at inPort
        rcases List.mem_cons.mp inPort with rfl | inDigits
        · exact ⟨by decide, by decide, by decide⟩
        · exact (wellFormed.port digits port c inDigits).isInner

theorem afterSlashes_authority (wellFormed : origin.WellFormed) {tail : List Char}
    (stops : ∀ c ∈ tail.head?, endsAuthority false c = true) :
    afterSlashes origin.schemeName (origin.authority ++ tail) =
      origin.site.map (·.url (pathAndQuery (isWeb origin.schemeName) tail)) := by
  have inner := wellFormed.isInner
  have taken : (origin.authority ++ tail).takeWhile (fun c => !endsAuthority (isWeb origin.schemeName) c) =
      origin.authority := by
    have stopped : tail.takeWhile (fun c => !endsAuthority (isWeb origin.schemeName) c) = [] := by
      cases tail with
      | nil => rfl
      | cons c rest =>
          have ends : endsAuthority (isWeb origin.schemeName) c = true := endsAuthority_mono (stops c rfl)
          exact List.takeWhile_cons_of_neg (by simp [ends])
    rw [List.takeWhile_append_of_pos fun c member => by rw [(inner c member).2.2]; rfl, stopped,
      List.append_nil]
  have noUser : splitUser origin.authority = ([], origin.authority) :=
    splitUser_of_not_mem fun member => (inner _ member).2.1 rfl
  have halves : splitPort false origin.authority = (origin.host, origin.portPart) := by
    rw [authority, wellFormed.host.splitPort_append, splitPort_portPart, List.append_nil]
  have named : origin.host.isEmpty = false := List.isEmpty_eq_false_iff.mpr wellFormed.host.ne_nil
  unfold afterSlashes site
  dsimp only
  rw [taken, noUser]
  dsimp only
  rw [halves, List.drop_left]
  dsimp only
  rw [named, Bool.and_false, if_neg Bool.false_ne_true]
  cases read : readHost (isWeb origin.schemeName) origin.host with
  | error fault => rfl
  | ok host =>
      have present : host.isEmpty = false := by simpa using readHost_ne_empty wellFormed.host.ne_nil read
      have noUserInfo : userInfo [] = ("", none) := rfl
      rw [noUserInfo]
      change (if (host.isEmpty && _) = true then _ else _) = _
      rw [present, Bool.false_and, if_neg Bool.false_ne_true]
      cases readPort origin.portPart with
      | error fault => rfl
      | ok port => rfl

theorem scheme?_append (wellFormed : origin.WellFormed) (rest : List Char) :
    scheme? (origin.scheme ++ ':' :: rest) = some (origin.schemeName, rest) := by
  obtain ⟨first, head, isLetter⟩ := wellFormed.letter
  have taken : (origin.scheme ++ ':' :: rest).takeWhile isSchemeChar = origin.scheme := by
    rw [List.takeWhile_append_of_pos wellFormed.scheme, List.takeWhile_cons_of_neg (by decide), List.append_nil]
  unfold scheme?
  dsimp only
  rw [taken, List.drop_left, Option.mem_def.mp head]
  exact if_pos isLetter

theorem dropSlashes_authority (wellFormed : origin.WellFormed) (tail : List Char) :
    ('/' :: '/' :: origin.authority ++ tail).dropWhile (fun c => c == '/' || c == '\\') =
      origin.authority ++ tail := by
  obtain ⟨first, host, split⟩ := List.exists_cons_of_ne_nil wellFormed.host.ne_nil
  have inner : IsInner first := wellFormed.host.isInner first (by simp [split])
  have stops : endsAuthority true first = false := inner.2.2 true
  have stays : (first == '/' || first == '\\') = false := by
    simp only [endsAuthority, Bool.or_eq_false_iff] at stops ⊢
    exact ⟨stops.1.1.1, stops.2⟩
  simp [authority, split, stays]

theorem parse_append (wellFormed : origin.WellFormed) {path : String} (isBehind : IsBehind path) :
    ∃ place, parse (origin.text ++ path) = origin.site.map (·.url place) := by
  obtain ⟨first, head, isLetter⟩ := wellFormed.letter
  have visible : ∀ c ∈ origin.scheme ++ ':' :: '/' :: '/' :: origin.authority, 0x20 < c.toNat := by
    intro c member
    simp only [List.mem_append, List.mem_cons] at member
    obtain inScheme | rfl | rfl | rfl | inAuthority := member
    · exact visible_of_isSchemeChar (wellFormed.scheme c inScheme)
    · decide
    · decide
    · decide
    · exact (wellFormed.isInner c inAuthority).1
  have cleaning : cleaned (origin.text ++ path) =
      origin.scheme ++ ':' :: ('/' :: '/' :: origin.authority ++ ending path.toList) := by
    have isFirst : (origin.text ++ path).toList.head? = some first := by
      simp [text, Option.mem_def.mp head]
    have memberOfScheme := List.mem_of_mem_head? head
    rw [cleaned_eq_ending isFirst (visible first (List.mem_append_left _ memberOfScheme)), String.toList_append,
      text, String.toList_ofList, ending_append visible]
    simp
  refine ⟨pathAndQuery (isWeb origin.schemeName) (ending path.toList), ?_⟩
  rw [← afterSlashes_authority wellFormed (isBehind_ending isBehind)]
  unfold parse
  rw [cleaning, scheme?_append wellFormed]
  dsimp only
  cases isWeb origin.schemeName with
  | true => rw [if_pos rfl, dropSlashes_authority wellFormed]
  | false => rfl

example : (⟨"HTTPS".toList, "Models.example".toList, some "443".toList⟩ : Origin).site =
    .ok ⟨"https", "models.example", none⟩ := by decide +kernel

end Origin

end Larder.Url
