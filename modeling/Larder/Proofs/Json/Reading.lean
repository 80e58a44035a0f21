import Larder.Json.Decoder
import Larder.Proofs.Json.Tokens
import Larder.Proofs.Text.Utf8

/-!
# Readings of whole texts

`Reads` describes a reading that goes well from a cursor to the end of a text, token by token, and a
document is clean exactly if there is one for its text (`ofText_eq_iff`). A value is read in the same way
inside of lists and objects as alone (`Reads.append`), so the text of a list or of an object is read from
the texts of its parts, whatever blanks and spellings these have (`spells_list`, `IsObjectText.spells`).
-/

namespace Larder.Json
open Text.Utf8 (encode)

/-- A reading from a cursor to the end of a text, of which `root` is the value. -/
inductive Reads (root : Tree) : Cursor → List UInt8 → Prop
  | after {bytes : List UInt8} (blank : bytes.all isSpace) : Reads root (.after root) bytes
  | space {frames : List Frame} {due : Due} {byte : UInt8} {rest : List UInt8} (blank : isSpace byte)
      (later : Reads root (.inside frames due) rest) : Reads root (.inside frames due) (byte :: rest)
  | token {frames : List Frame} {due : Due} {byte : UInt8} {rest more : List UInt8} {token : Token}
      {cursor : Cursor} (visible : isSpace byte = false) (next : nextToken? byte rest = some (token, more))
      (fits : advance frames due token = some cursor) (later : Reads root cursor more) :
      Reads root (.inside frames due) (byte :: rest)

def Spells (text : String) (tree : Tree) : Prop :=
  Reads tree (.inside [] .value) (encode text)

variable {root tree : Tree} {frames inner outer : List Frame} {due : Due} {cursor : Cursor}
  {bytes tail : List UInt8} {text : String}

/-! ## Clean documents -/

theorem Reads.readFrom_eq {fuel : Nat} (reads : Reads root cursor bytes) (enough : bytes.length < fuel) :
    readFrom fuel cursor bytes = ⟨root, true⟩ := by
  induction reads generalizing fuel with
  | after blank => rw [readFrom.eq_def]; simp only [blank]
  | space blank later ih =>
      obtain ⟨fuel, rfl⟩ : ∃ less, fuel = less + 1 := ⟨fuel - 1, by omega⟩
      rw [readFrom, if_pos blank]
      exact ih (by simpa using enough)
  | token visible next fits later ih =>
      obtain ⟨fuel, rfl⟩ : ∃ less, fuel = less + 1 := ⟨fuel - 1, by omega⟩
      -- A token takes at least one byte, so what fuel is left is enough for the rest.
      have shorter := (nextToken?_suffix next).length_le
      rw [readFrom, if_neg (by simp [visible]), next]
      dsimp only
      rw [fits]
      rw [List.length_cons] at enough
      exact ih (by omega)

theorem reads_of_readFrom_eq {fuel : Nat} (read : readFrom fuel cursor bytes = ⟨root, true⟩) :
    Reads root cursor bytes := by
  induction fuel generalizing cursor bytes with
  | zero =>
      cases cursor with
      | inside frames due => cases read
      | after value =>
          obtain ⟨rfl, blank⟩ := Document.mk.inj read
          exact .after blank
  | succ fuel ih =>
      cases cursor with
      | after value =>
          obtain ⟨rfl, blank⟩ := Document.mk.inj read
          exact .after blank
      | inside frames due =>
          cases bytes with
          | nil => cases read
          | cons byte rest =>
              rw [readFrom] at read
              split at read
              next blank => exact .space blank (ih read)
              next visible =>
                split at read
                · cases read
                next token more next =>
                  split at read
                  · cases read
                  next cursor fits => exact .token (by simpa using visible) next fits (ih read)

theorem ofText_eq_iff : Document.ofText text = ⟨tree, true⟩ ↔ Spells text tree :=
  ⟨reads_of_readFrom_eq, fun reads => reads.readFrom_eq (Nat.lt_succ_self _)⟩

theorem bind_eq_ok_iff {ε α β : Type} {first : Except ε α} {follow : α → Except ε β} {result : β} :
    first >>= follow = .ok result ↔ ∃ value, first = .ok value ∧ follow value = .ok result := by
  cases first with
  | error fault => exact ⟨nofun, fun ⟨_, done, _⟩ => nomatch done⟩
  | ok value => exact ⟨fun goes => ⟨value, rfl, goes⟩, fun ⟨_, same, goes⟩ => Except.ok.inj same ▸ goes⟩

theorem decodeText_of_spells {α : Type} (read : Decoder α) (spells : Spells text tree) :
    decodeText read text = read Context.text tree := by
  have document : Document.ofBytes (encode text) = ⟨tree, true⟩ := ofText_eq_iff.mpr spells
  unfold decodeText decodeBytes
  rw [document]
  cases decoded : read Context.text tree with
  | error fault => simp only [decoded]; rfl
  | ok value => simp only [decoded]; rfl

theorem decodeText_eq_ok_iff {α : Type} {read : Decoder α} {value : α} :
    decodeText read text = .ok value ↔ ∃ tree, Spells text tree ∧ read Context.text tree = .ok value := by
  constructor
  · intro decodes
    unfold decodeText decodeBytes at decodes
    obtain ⟨found, decoded, whole⟩ := bind_eq_ok_iff.mp decodes
    split at whole
    next clean =>
      obtain rfl := Except.ok.inj whole
      refine ⟨(Document.ofText text).root, ofText_eq_iff.mp ?_, decoded⟩
      rw [← clean]
      rfl
    next => cases whole
  · rintro ⟨tree, spells, decoded⟩
    rw [decodeText_of_spells read spells, decoded]

/-! ## Blanks -/

theorem Reads.blanks {blanks : List UInt8} (blank : blanks.all isSpace) (reads : Reads root cursor bytes) :
    Reads root cursor (blanks ++ bytes) := by
  induction blanks with
  | nil => exact reads
  | cons byte blanks ih =>
      rw [List.all_cons, Bool.and_eq_true] at blank
      have later := ih blank.2
      cases cursor with
      | inside frames due => exact .space blank.1 later
      | after value =>
          cases later with
          | after rest => exact .after (by simp [blank.1, rest])

/-! ## Values inside of others -/

def Cursor.under (outer : List Frame) : Cursor → Cursor
  | .inside frames due => .inside (frames ++ outer) due
  | .after root => deliver root outer

theorem deliver_under (value : Tree) (inner outer : List Frame) :
    (deliver value inner).under outer = deliver value (inner ++ outer) := by
  cases inner with
  | nil => rfl
  | cons frame inner => cases frame <;> rfl

theorem beginValue_under {token : Token} (fits : beginValue inner token = some cursor) :
    beginValue (inner ++ outer) token = some (cursor.under outer) := by
  unfold beginValue at fits ⊢
  split at fits
  · obtain rfl := Option.some.inj fits
    rfl
  · obtain rfl := Option.some.inj fits
    rfl
  · obtain ⟨value, scalar, rfl⟩ := Option.map_eq_some_iff.mp fits
    rw [deliver_under, scalar]
    rfl

theorem close_of_beginValue {token : Token} (fits : beginValue inner token = some cursor) :
    close frames token = none := by
  cases token <;> first | rfl | cases fits

theorem beginMember_under {token : Token} (fits : beginMember inner token = some cursor) :
    beginMember (inner ++ outer) token = some (cursor.under outer) := by
  unfold beginMember at fits
  split at fits
  · obtain rfl := Option.some.inj fits
    rfl
  · cases fits

theorem close_of_beginMember {token : Token} (fits : beginMember inner token = some cursor) :
    close frames token = none := by
  cases token <;> first | rfl | cases fits

theorem close_under {token : Token} (fits : close inner token = some cursor) :
    close (inner ++ outer) token = some (cursor.under outer) := by
  unfold close at fits
  split at fits
  · obtain rfl := Option.some.inj fits
    rw [deliver_under]
    rfl
  · obtain rfl := Option.some.inj fits
    rw [deliver_under]
    rfl
  · cases fits

theorem advance_under {token : Token} (fits : advance inner due token = some cursor) :
    advance (inner ++ outer) due token = some (cursor.under outer) := by
  cases due with
  | value => exact beginValue_under fits
  | firstItem =>
      rcases Option.or_eq_some_iff.mp fits with closes | ⟨_, begins⟩
      · exact Option.or_eq_some_iff.mpr (.inl (close_under closes))
      · exact Option.or_eq_some_iff.mpr (.inr ⟨close_of_beginValue begins, beginValue_under begins⟩)
  | firstName =>
      rcases Option.or_eq_some_iff.mp fits with closes | ⟨_, begins⟩
      · exact Option.or_eq_some_iff.mpr (.inl (close_under closes))
      · exact Option.or_eq_some_iff.mpr (.inr ⟨close_of_beginMember begins, beginMember_under begins⟩)
  | name => exact beginMember_under fits
  | colon =>
      cases token with
      | colon =>
          obtain rfl := Option.some.inj fits
          rfl
      | _ => cases fits
  | separator =>
      cases token with
      | closeList => exact close_under fits
      | closeObject => exact close_under fits
      | comma =>
          rcases inner with _ | ⟨frame, inner⟩
          · cases fits
          · cases frame with
            | member members name => cases fits
            | _ =>
                obtain rfl := Option.some.inj fits
                rfl
      | _ => cases fits

theorem Reads.append_under (reads : Reads tree cursor bytes) (delimits : Delimits tail)
    (later : Reads root (deliver tree outer) tail) : Reads root (cursor.under outer) (bytes ++ tail) := by
  induction reads with
  | after blank => exact later.blanks blank
  | space blank _ ih => exact .space blank ih
  | token visible next fits _ ih =>
      exact .token visible (nextToken?_append delimits next) (advance_under fits) ih

theorem Reads.append (frames : List Frame) (spells : Spells text tree) (delimits : Delimits tail)
    (later : Reads root (deliver tree frames) tail) :
    Reads root (.inside frames .value) (encode text ++ tail) :=
  Reads.append_under spells delimits later

theorem Reads.append_first (frames : List Frame) (spells : Spells text tree) (delimits : Delimits tail)
    (later : Reads root (deliver tree frames) tail) :
    Reads root (.inside frames .firstItem) (encode text ++ tail) := by
  have whole := Reads.append frames spells delimits later
  generalize encode text ++ tail = all at whole
  generalize at_ : Cursor.inside frames .value = cursor at whole
  induction whole with
  | after blank => cases at_
  | space blank _ ih =>
      obtain ⟨rfl, rfl⟩ := Cursor.inside.inj at_
      exact .space blank (ih rfl)
  | token visible next fits later _ =>
      obtain ⟨rfl, rfl⟩ := Cursor.inside.inj at_
      exact .token visible next (Option.or_eq_some_iff.mpr (.inr ⟨close_of_beginValue fits, fits⟩)) later

/-! ## Names -/

def Cursor.IsNested : Cursor → Prop
  | .inside frames _ => frames ≠ []
  | .after value => ∀ content, value ≠ .text content

theorem deliver_isNested {value : Tree} (either : frames ≠ [] ∨ ∀ content, value ≠ .text content) :
    (deliver value frames).IsNested := by
  cases frames with
  | nil => exact either.resolve_left (fun nested => nested rfl)
  | cons frame frames => cases frame <;> exact List.cons_ne_nil _ _

theorem beginValue_isNested {token : Token} (nested : frames ≠ [])
    (fits : beginValue frames token = some cursor) : cursor.IsNested := by
  unfold beginValue at fits
  split at fits
  · obtain rfl := Option.some.inj fits
    exact List.cons_ne_nil _ _
  · obtain rfl := Option.some.inj fits
    exact List.cons_ne_nil _ _
  · obtain ⟨value, _, rfl⟩ := Option.map_eq_some_iff.mp fits
    exact deliver_isNested (.inl nested)

theorem beginMember_isNested {token : Token} (fits : beginMember frames token = some cursor) :
    cursor.IsNested := by
  unfold beginMember at fits
  split at fits
  · obtain rfl := Option.some.inj fits
    exact List.cons_ne_nil _ _
  · cases fits

theorem close_isNested {token : Token} (fits : close frames token = some cursor) : cursor.IsNested := by
  unfold close at fits
  split at fits
  · obtain rfl := Option.some.inj fits
    exact deliver_isNested (.inr fun _ => nofun)
  · obtain rfl := Option.some.inj fits
    exact deliver_isNested (.inr fun _ => nofun)
  · cases fits

theorem advance_isNested {token : Token} (nested : frames ≠ [])
    (fits : advance frames due token = some cursor) : cursor.IsNested := by
  cases due with
  | value => exact beginValue_isNested nested fits
  | firstItem =>
      rcases Option.or_eq_some_iff.mp fits with closes | ⟨_, begins⟩
      · exact close_isNested closes
      · exact beginValue_isNested nested begins
  | firstName =>
      rcases Option.or_eq_some_iff.mp fits with closes | ⟨_, begins⟩
      · exact close_isNested closes
      · exact beginMember_isNested begins
  | name => exact beginMember_isNested fits
  | colon =>
      cases token with
      | colon =>
          obtain rfl := Option.some.inj fits
          exact nested
      | _ => cases fits
  | separator =>
      cases token with
      | closeList => exact close_isNested fits
      | closeObject => exact close_isNested fits
      | comma =>
          rcases frames with _ | ⟨frame, frames⟩
          · cases fits
          · cases frame with
            | member members name => cases fits
            | _ =>
                obtain rfl := Option.some.inj fits
                exact nested
      | _ => cases fits

theorem Reads.not_text (reads : Reads root cursor bytes) (nested : cursor.IsNested) (content : Option String) :
    root ≠ .text content := by
  induction reads with
  | after blank => exact nested content
  | space blank later ih => exact ih nested
  | token visible next fits later ih => exact ih (advance_isNested nested fits)

theorem Reads.name {content : Option String} {members : List (Option String × Tree)}
    (spells : Spells text (.text content)) (place : due = .name ∨ due = .firstName)
    (delimits : Delimits tail)
    (later : Reads root (.inside (.member members content :: frames) .colon) tail) :
    Reads root (.inside (.object members :: frames) due) (encode text ++ tail) := by
  unfold Spells at spells
  generalize encode text = bytes at spells
  generalize at_ : Cursor.inside [] .value = cursor at spells
  induction spells with
  | after blank => cases at_
  | space blank _ ih =>
      obtain ⟨rfl, rfl⟩ := Cursor.inside.inj at_
      exact .space blank (ih rfl)
  | @token _ _ _ _ more token cursor visible next fits rest _ =>
      obtain ⟨rfl, rfl⟩ := Cursor.inside.inj at_
      -- The token can only be the name itself.
      cases token with
      | text found =>
          obtain rfl := Option.some.inj fits
          cases rest with
          | after blank =>
              have begins : advance (.object members :: frames) due (.text content) =
                  some (.inside (.member members content :: frames) .colon) := by
                rcases place with rfl | rfl <;> rfl
              exact .token visible (nextToken?_append delimits next) begins (later.blanks blank)
      | openList =>
          obtain rfl := Option.some.inj fits
          exact absurd rfl (rest.not_text (List.cons_ne_nil _ _) content)
      | openObject =>
          obtain rfl := Option.some.inj fits
          exact absurd rfl (rest.not_text (List.cons_ne_nil _ _) content)
      | null =>
          obtain rfl := Option.some.inj fits
          cases rest
      | bool value =>
          obtain rfl := Option.some.inj fits
          cases rest
      | number value =>
          obtain rfl := Option.some.inj fits
          cases rest
      | _ => cases fits

/-! ## Lists and objects -/

theorem encode_intercalate (first : String) (rest : List String) :
    encode (",".intercalate (first :: rest)) =
      encode first ++ rest.flatMap fun text => 0x2C :: encode text := by
  induction rest generalizing first with
  | nil => simp
  | cons second rest ih =>
      rw [String.intercalate_cons_cons, Text.Utf8.encode_append, Text.Utf8.encode_append, ih,
        List.flatMap_cons, List.append_assoc]
      rfl

theorem Reads.items (frames : List Frame) (items : List Tree) {parts : List (String × Tree)}
    (spell : ∀ part ∈ parts, Spells part.1 part.2)
    (later : Reads root (deliver (.list (items.reverse ++ parts.map (·.2)) .closed) frames) tail) :
    Reads root (.inside (.list items :: frames) .separator)
      (((parts.map (·.1)).flatMap fun text => 0x2C :: encode text) ++ 0x5D :: tail) := by
  induction parts generalizing items with
  | nil =>
      rw [List.map_nil, List.append_nil] at later
      exact .token rfl rfl rfl later
  | cons part parts ih =>
      obtain ⟨first, rest⟩ := List.forall_mem_cons.mp spell
      have behind := ih (part.2 :: items) rest (by simpa using later)
      have item := Reads.append (.list items :: frames) first
        (by cases parts <;> exact delimits_cons rfl _) behind
      rw [List.map_cons, List.flatMap_cons, List.cons_append, List.cons_append, List.append_assoc]
      exact .token rfl rfl rfl item

theorem spells_list {parts : List (String × Tree)} (spell : ∀ part ∈ parts, Spells part.1 part.2) :
    Spells ("[" ++ ",".intercalate (parts.map (·.1)) ++ "]") (.list (parts.map (·.2)) .closed) := by
  unfold Spells
  rw [Text.Utf8.encode_append, Text.Utf8.encode_append]
  cases parts with
  | nil => exact .token rfl rfl rfl (.token rfl rfl rfl (.after rfl))
  | cons part parts =>
      obtain ⟨first, rest⟩ := List.forall_mem_cons.mp spell
      have behind := Reads.items [] [part.2] rest (.after List.all_nil)
      have items := Reads.append_first [.list []] first
        (by cases parts <;> exact delimits_cons rfl _) behind
      rw [List.map_cons, List.map_cons, encode_intercalate, List.append_assoc, List.append_assoc]
      exact .token rfl rfl rfl items

structure MemberText where
  name : String
  content : Option String
  value : String
  tree : Tree

namespace MemberText

def written (member : MemberText) : String :=
  member.name ++ ":" ++ member.value

def entry (member : MemberText) : Option String × Tree :=
  (member.content, member.tree)

structure IsSound (member : MemberText) : Prop where
  name : Document.ofText member.name = ⟨.text member.content, true⟩
  value : Document.ofText member.value = ⟨member.tree, true⟩

end MemberText

theorem Reads.member (frames : List Frame) {member : MemberText} (sound : member.IsSound)
    {members : List (Option String × Tree)} (place : due = .name ∨ due = .firstName) (delimits : Delimits tail)
    (later : Reads root (.inside (.object (member.entry :: members) :: frames) .separator) tail) :
    Reads root (.inside (.object members :: frames) due) (encode member.written ++ tail) := by
  have value := Reads.append (.member members member.content :: frames) (ofText_eq_iff.mp sound.value) delimits
    later
  have colon : Reads root (.inside (.member members member.content :: frames) .colon)
      (0x3A :: (encode member.value ++ tail)) := .token rfl rfl rfl value
  have name := Reads.name (ofText_eq_iff.mp sound.name) place (delimits_cons rfl _) colon
  unfold MemberText.written
  rw [Text.Utf8.encode_append, Text.Utf8.encode_append, List.append_assoc, List.append_assoc]
  exact name

theorem Reads.members (frames : List Frame) (members : List (Option String × Tree))
    {parts : List MemberText} (sound : ∀ part ∈ parts, part.IsSound)
    (later : Reads root (deliver (.object (members.reverse ++ parts.map (·.entry)) .closed) frames) tail) :
    Reads root (.inside (.object members :: frames) .separator)
      (((parts.map (·.written)).flatMap fun text => 0x2C :: encode text) ++ 0x7D :: tail) := by
  induction parts generalizing members with
  | nil =>
      rw [List.map_nil, List.append_nil] at later
      exact .token rfl rfl rfl later
  | cons part parts ih =>
      obtain ⟨first, rest⟩ := List.forall_mem_cons.mp sound
      have behind := ih (part.entry :: members) rest (by simpa using later)
      have member := Reads.member frames first (.inl rfl)
        (by cases parts <;> exact delimits_cons rfl _) behind
      rw [List.map_cons, List.flatMap_cons, List.cons_append, List.cons_append, List.append_assoc]
      exact .token rfl rfl rfl member

def IsBlank (text : String) : Prop :=
  (encode text).all isSpace

/-- A text of an object with these members: in braces, with commas between them and blanks around. The blanks
around names and values belong to the texts of these. -/
structure IsObjectText (text : String) (parts : List MemberText) : Prop where
  sound : ∀ part ∈ parts, part.IsSound
  layout : ∃ lead first trail, IsBlank lead ∧ IsBlank first ∧ IsBlank trail ∧
    text = lead ++ "\x7b" ++ first ++ ",".intercalate (parts.map (·.written)) ++ "\x7d" ++ trail

theorem IsObjectText.spells {parts : List MemberText} (isText : IsObjectText text parts) :
    Spells text (.object (parts.map (·.entry)) .closed) := by
  obtain ⟨lead, first, trail, leads, firsts, trails, rfl⟩ := isText.layout
  unfold Spells
  simp only [Text.Utf8.encode_append, List.append_assoc]
  refine .blanks leads (.token rfl rfl rfl ?_)
  refine @Reads.blanks _ _ _ (encode first) firsts ?_
  cases parts with
  | nil => exact .token rfl rfl rfl (.after trails)
  | cons part parts =>
      obtain ⟨head, rest⟩ := List.forall_mem_cons.mp isText.sound
      have behind := Reads.members [] [part.entry] rest (.after trails)
      have members := Reads.member [] head (.inr rfl)
        (by cases parts <;> exact delimits_cons rfl _) behind
      rw [List.map_cons, List.map_cons, encode_intercalate, List.append_assoc]
      exact members

end Larder.Json
