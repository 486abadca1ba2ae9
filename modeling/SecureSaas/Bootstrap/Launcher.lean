import SecureSaas.Bootstrap.Document
import SecureSaas.Js.Members
import Mathlib.Data.List.DropRight

/-!
# Documents in the launcher (`cmd/deus-aws-bootstrap/main.go`)

The native launcher decodes the candidate with `encoding/json` and writes its canonical text anew. A string
is valid UTF-8 after decoding, and a number keeps the text it has in the document.

* `pretty_readable`: what the decoder makes of an indented text.
* `decodeJSONObject_file`: the same for the file of a candidate.
-/

namespace SecureSaas.Bootstrap

open Js

/-- `any`, as decoded with `UseNumber`. A map is given by its entries, one for a key. -/
inductive GoValue
  | null
  | bool (b : Bool)
  | number (raw : List Char)
  | string (s : String)
  | array (items : List GoValue)
  | object (members : List (String × GoValue))

namespace GoValue

/-! ## The decoder -/

/-- A number keeps its text. -/
def readNumber (cs : List Char) : Option (List Char × List Char) :=
  let token := cs.takeWhile isTokenChar
  if isNumberToken token then some (token, cs.dropWhile isTokenChar) else none

mutual
/-- A value and the input after it; the fuel bounds the nesting and the number of items. The escapes of a
string are those of `JSON.parse`, and an escaped surrogate without its partner becomes U+FFFD. -/
def parseValue : ℕ → List Char → Option (GoValue × List Char)
  | 0, _ => none
  | fuel + 1, cs =>
    match skipSpace cs with
    | [] => none
    | c :: rest =>
      if c = '"' then (readString rest).map fun read => (.string read.1, read.2)
      else if c = '[' then
        match skipSpace rest with
        | ']' :: rest => some (.array [], rest)
        | rest => (parseItems fuel rest).map fun read => (.array read.1, read.2)
      else if c = '{' then
        match skipSpace rest with
        | '}' :: rest => some (.object [], rest)
        | rest => (parseMembers fuel rest).map fun read => (.object (Record.fromEntries read.1).properties, read.2)
      else if c = 'n' then (expectWord "ull" rest).map fun rest => (.null, rest)
      else if c = 't' then (expectWord "rue" rest).map fun rest => (.bool true, rest)
      else if c = 'f' then (expectWord "alse" rest).map fun rest => (.bool false, rest)
      else (readNumber (c :: rest)).map fun read => (.number read.1, read.2)
/-- The items of an array up to its closing bracket. -/
def parseItems : ℕ → List Char → Option (List GoValue × List Char)
  | 0, _ => none
  | fuel + 1, cs => do
    let read ← parseValue fuel cs
    match skipSpace read.2 with
    | ']' :: rest => some ([read.1], rest)
    | ',' :: rest => do
      let items ← parseItems fuel rest
      some (read.1 :: items.1, items.2)
    | _ => none
/-- The members of an object up to its closing bracket, in the order of the text. -/
def parseMembers : ℕ → List Char → Option (List (String × GoValue) × List Char)
  | 0, _ => none
  | fuel + 1, cs =>
    match skipSpace cs with
    | '"' :: rest => do
      let key ← readString rest
      match skipSpace key.2 with
      | ':' :: rest => do
        let read ← parseValue fuel rest
        match skipSpace read.2 with
        | '}' :: rest => some ([(key.1, read.1)], rest)
        | ',' :: rest => do
          let members ← parseMembers fuel rest
          some ((key.1, read.1) :: members.1, members.2)
        | _ => none
      | _ => none
    | _ => none
end

/-- `decodeJSONObject(contents)`: one object and nothing but white space after it. A text that is JSON needs
no more fuel than its length. -/
def decodeJSONObject (contents : List Char) : Except String (List (String × GoValue)) :=
  match parseValue contents.length contents with
  | some (.object members, rest) =>
    if skipSpace rest = [] then .ok members else .error "document contains trailing JSON"
  | _ => .error "document is not a JSON object"

/-! ## The canonical text -/

/-- One character in a string that the encoder writes with `SetEscapeHTML(false)`. -/
def escapeRune (c : Char) : List Char :=
  if c.toNat = 0x2028 then ['\\', 'u', '2', '0', '2', '8']
  else if c.toNat = 0x2029 then ['\\', 'u', '2', '0', '2', '9']
  else escapeChar c

def encodeString (s : String) : List Char := '"' :: (s.toList.flatMap escapeRune ++ ['"'])

/-- A minimal nonnegative integer in the safe range of JavaScript. -/
def canonicalNumber (raw : List Char) : Except String (List Char) := do
  throwUnless (!(raw.isEmpty || (decide (1 < raw.length) && raw.head? == some '0')))
    "canonical JSON number is not a minimal nonnegative integer"
  throwUnless (raw.all isDecimal) "canonical JSON number is not a minimal nonnegative integer"
  throwUnless (decide ((Nat.ofDigitChars 10 raw 0 : ℤ) ≤ maxSafeInteger))
    "canonical JSON number exceeds the JavaScript safe-integer range"
  pure raw

/-- `"key":text`. -/
def encodeEntry (p : String × List Char) : List Char := encodeString p.1 ++ ':' :: p.2

mutual
/-- `canonicalJSON(value)`. -/
def canonicalJSON : GoValue → Except String (List Char)
  | .null => .ok ['n', 'u', 'l', 'l']
  | .bool true => .ok ['t', 'r', 'u', 'e']
  | .bool false => .ok ['f', 'a', 'l', 's', 'e']
  | .number raw => canonicalNumber raw
  | .string s => .ok (encodeString s)
  | .array items => (canonicalItems items).map fun texts => '[' :: (commaJoin texts ++ [']'])
  | .object members => (canonicalEntries members).map fun texts =>
      '{' :: (commaJoin ((texts.insertionSort fun p q => p.1 ≤ q.1).map encodeEntry) ++ ['}'])
def canonicalItems : List GoValue → Except String (List (List Char))
  | [] => .ok []
  | v :: rest => do
    let text ← canonicalJSON v
    let texts ← canonicalItems rest
    pure (text :: texts)
def canonicalEntries : List (String × GoValue) → Except String (List (String × List Char))
  | [] => .ok []
  | (k, v) :: rest => do
    let text ← canonicalJSON v
    let texts ← canonicalEntries rest
    pure ((k, text) :: texts)
end

/-- The entries without the digest and the signature. -/
def subject {α : Type} (members : List (String × α)) : List (String × α) :=
  members.filter fun p => p.1 != "candidateDigest" && p.1 != "signature"

/-- The check of the digest at the start of `verifyLauncherBinding`. -/
def verifyCandidateDigest (rt : Runtime) (contents : List Char) : Except String Unit := do
  let candidate ← (decodeJSONObject contents).mapError fun message => "parse candidate launcher binding: " ++ message
  match candidate.lookup "candidateDigest", candidate.lookup "signature" with
  | some (.string candidateDigest), some (.object _) => do
    throwUnless (isHexDigest candidateDigest) "candidate digest is invalid"
    match canonicalJSON (.object (subject candidate)) with
    | .ok canonical =>
      throwUnless (rt.sha256 (String.ofList canonical) == candidateDigest)
        "candidate digest does not match its signed subject"
    | .error _ => .error "candidate digest does not match its signed subject"
  | some (.string candidateDigest), _ => do
    throwUnless (isHexDigest candidateDigest) "candidate digest is invalid"
    .error "candidate signature is invalid"
  | _, _ => .error "candidate digest is invalid"

end GoValue

/-! ## What is decoded -/

namespace Document

mutual
/-- What the decoder makes of a document. -/
def decoded : Document → GoValue
  | .null => .null
  | .bool b => .bool b
  | .number n => .number (intChars n)
  | .string s => .string (wellFormed s)
  | .array items => .array (decodedItems items)
  | .object members => .object (ownOrder (decodedEntries members))
def decodedItems : List Document → List GoValue
  | [] => []
  | v :: rest => decoded v :: decodedItems rest
def decodedEntries : List (String × Document) → List (String × GoValue)
  | [] => []
  | (k, v) :: rest => (k, decoded v) :: decodedEntries rest
end

theorem decodedItems_map (items : List Document) : decodedItems items = items.map decoded := by
  induction items with
  | nil => rfl
  | cons v rest ih => rw [decodedItems, ih, List.map_cons]

theorem decodedEntries_map (members : List (String × Document)) :
    decodedEntries members = members.map fun p => (p.1, decoded p.2) := by
  induction members with
  | nil => rfl
  | cons p rest ih => rw [decodedEntries, ih, List.map_cons]

theorem prettyItems_map (depth : ℕ) (items : List Document) :
    prettyItems depth items = items.map fun v => indent depth ++ prettyChars depth v := by
  induction items with
  | nil => rfl
  | cons v rest ih => rw [prettyItems, ih, List.map_cons]

theorem prettyEntries_map (depth : ℕ) (members : List (String × Document)) :
    prettyEntries depth members = members.map fun p => (p.1, prettyChars depth p.2) := by
  induction members with
  | nil => rfl
  | cons p rest ih => rw [prettyEntries, ih, List.map_cons]

theorem plainItems_iff {items : List Document} : PlainItems items ↔ ∀ v ∈ items, Plain v := by
  induction items with
  | nil => simp [PlainItems]
  | cons v rest ih => rw [PlainItems, ih, List.forall_mem_cons]

theorem plainEntries_iff {members : List (String × Document)} : PlainEntries members ↔ ∀ p ∈ members, Plain p.2 := by
  induction members with
  | nil => simp [PlainEntries]
  | cons p rest ih => rw [PlainEntries, ih, List.forall_mem_cons]

end Document

/-! ## Reading indented texts -/

namespace GoValue

/-- The input ends, or goes on with a separator or a new line. -/
def Delimited : List Char → Prop
  | [] => True
  | c :: _ => c = ',' ∨ c = ']' ∨ c = '}' ∨ c = '\n'

/-- A text is read up to its end as this value, whatever separator follows it. -/
def Readable (t : List Char) (v : GoValue) : Prop :=
  ∀ fuel rest, t.length ≤ fuel → Delimited rest → parseValue fuel (t ++ rest) = some (v, rest)

/-- A character that is neither white space nor a bracket that closes. -/
def Opening (t : List Char) : Prop := ∃ c cs, t = c :: cs ∧ isJsonSpace c = false ∧ c ≠ ']' ∧ c ≠ '}'

theorem skipSpace_indent (depth : ℕ) (cs : List Char) : skipSpace (Document.indent depth ++ cs) = skipSpace cs := by
  unfold skipSpace Document.indent
  refine List.dropWhile_append_of_pos fun c hc => ?_
  rcases List.mem_cons.1 hc with rfl | hc
  · rfl
  · rw [List.eq_of_mem_replicate hc]
    rfl

theorem skipSpace_skipSpace (cs : List Char) : skipSpace (skipSpace cs) = skipSpace cs := by
  unfold skipSpace
  exact List.dropWhile_idempotent _ _

/-- White space before a value is skipped. -/
theorem parseValue_space {cs ds : List Char} (h : skipSpace cs = skipSpace ds) (fuel : ℕ) :
    parseValue fuel cs = parseValue fuel ds := by
  cases fuel with
  | zero => rfl
  | succ fuel => simp only [parseValue, h]

theorem parseItems_space {cs ds : List Char} (h : skipSpace cs = skipSpace ds) (fuel : ℕ) :
    parseItems fuel cs = parseItems fuel ds := by
  cases fuel with
  | zero => rfl
  | succ fuel => simp only [parseItems, parseValue_space h]

theorem parseMembers_space {cs ds : List Char} (h : skipSpace cs = skipSpace ds) (fuel : ℕ) :
    parseMembers fuel cs = parseMembers fuel ds := by
  cases fuel with
  | zero => rfl
  | succ fuel => simp only [parseMembers, h]

theorem skipSpace_blank (cs : List Char) : skipSpace (' ' :: cs) = skipSpace cs :=
  List.dropWhile_cons_of_pos (by decide)

theorem readNumber_intChars (n : ℤ) {rest : List Char} (hrest : Delimited rest) :
    readNumber (intChars n ++ rest) = some (intChars n, rest) := by
  have htoken : ∀ c ∈ intChars n, isTokenChar c = true := by
    intro c hc
    unfold isTokenChar
    rw [(intChars_spec n).2 c hc, Bool.true_or]
  have hstop : rest.takeWhile isTokenChar = [] ∧ rest.dropWhile isTokenChar = rest := by
    cases rest with
    | nil => exact ⟨rfl, rfl⟩
    | cons c rest =>
      have hc : isTokenChar c = false := by
        rcases hrest with rfl | rfl | rfl | rfl <;> decide
      exact ⟨List.takeWhile_cons_of_neg (by simp [hc]), List.dropWhile_cons_of_neg (by simp [hc])⟩
  unfold readNumber
  rw [List.takeWhile_append_of_pos htoken, List.dropWhile_append_of_pos htoken, hstop.1, hstop.2, List.append_nil]
  rw [if_pos (isNumberToken_intChars n)]

theorem number_readable (n : ℤ) : Readable (intChars n) (.number (intChars n)) := by
  intro fuel rest hfuel hrest
  have hread := readNumber_intChars n hrest
  obtain ⟨c, cs, hcs⟩ := List.exists_cons_of_ne_nil (intChars_spec n).1
  have hc : isNumberChar c = true := (intChars_spec n).2 c (hcs ▸ List.mem_cons_self)
  obtain ⟨hs, h1, h2, h3, h4, h5, h6⟩ := numberChar_ne hc
  rw [hcs, List.length_cons] at hfuel
  rw [hcs] at hread ⊢
  obtain ⟨fuel, rfl⟩ : ∃ k, fuel = k + 1 := ⟨fuel - 1, by omega⟩
  rw [List.cons_append] at hread ⊢
  simp only [parseValue, skipSpace_cons hs, h1, h2, h3, h4, h5, h6, if_false, hread, Option.map_some]

theorem string_readable (s : List UInt16) : Readable (quoteUnits s) (.string (wellFormed s)) := by
  intro fuel rest hfuel _
  unfold quoteUnits at hfuel ⊢
  rw [List.length_cons] at hfuel
  obtain ⟨fuel, rfl⟩ : ∃ k, fuel = k + 1 := ⟨fuel - 1, by omega⟩
  have hspace : isJsonSpace '"' = false := by decide
  simp only [List.cons_append, List.append_assoc, List.nil_append, parseValue, skipSpace_cons hspace, if_true,
    readString_quoteUnits, Option.map_some]

theorem word_readable {c : Char} {word : String} {v : GoValue}
    (h : ∀ fuel rest, parseValue (fuel + 1) (c :: word.toList ++ rest) = some (v, rest)) :
    Readable (c :: word.toList) v := by
  intro fuel rest hfuel _
  obtain ⟨fuel, rfl⟩ : ∃ k, fuel = k + 1 := ⟨fuel - 1, by rw [List.length_cons] at hfuel; omega⟩
  exact h fuel rest

/-- **Items on lines of their own are read one after the other.** -/
theorem items_readable (depth inner : ℕ) : ∀ {items : List (List Char × GoValue)}, items ≠ [] →
    (∀ p ∈ items, Readable p.1 p.2) → ∀ (fuel : ℕ) (rest : List Char),
      (commaJoin (items.map fun p => Document.indent inner ++ p.1)).length + 1 ≤ fuel →
      parseItems fuel (commaJoin (items.map fun p => Document.indent inner ++ p.1) ++
        (Document.indent depth ++ ']' :: rest)) = some (items.map Prod.snd, rest) := by
  have hclose : isJsonSpace ']' = false := by decide
  have hcomma : isJsonSpace ',' = false := by decide
  intro items
  induction items with
  | nil => exact fun h => absurd rfl h
  | cons p items ih =>
    intro _ hall fuel rest hfuel
    obtain ⟨hp, hrest⟩ := List.forall_mem_cons.1 hall
    obtain ⟨fuel, rfl⟩ : ∃ k, fuel = k + 1 := ⟨fuel - 1, by omega⟩
    have hlen := commaJoin_cons_length (Document.indent inner ++ p.1) (items.map fun p => Document.indent inner ++ p.1)
    rw [List.map_cons] at hfuel ⊢
    rw [List.length_append] at hlen
    have hread : ∀ tail, Delimited tail → parseValue fuel (Document.indent inner ++ p.1 ++ tail) = some (p.2, tail) := by
      intro tail htail
      rw [List.append_assoc, parseValue_space (skipSpace_indent inner _)]
      exact hp fuel tail (by omega) htail
    cases items with
    | nil =>
      have hone := hread (Document.indent depth ++ ']' :: rest) (Or.inr (Or.inr (Or.inr rfl)))
      simp only [List.map_nil, commaJoin, parseItems, hone, Option.bind_eq_bind, Option.bind_some, skipSpace_indent,
        skipSpace_cons hclose, List.map_cons]
    | cons q items =>
      simp only [List.map_cons, reduceCtorEq, if_false] at hlen hfuel ih ⊢
      have hone := hread (',' :: (commaJoin ((Document.indent inner ++ q.1) ::
        items.map fun p => Document.indent inner ++ p.1) ++ (Document.indent depth ++ ']' :: rest))) (Or.inl rfl)
      have hothers := ih (by simp) hrest fuel rest (by omega)
      simp only [commaJoin, List.append_assoc, List.cons_append] at hone hothers ⊢
      simp only [parseItems, hone, Option.bind_eq_bind, Option.bind_some, skipSpace_cons hcomma, hothers]

/-- **Members on lines of their own are read one after the other.** -/
theorem members_readable (depth inner : ℕ) : ∀ {members : List (String × List Char × GoValue)}, members ≠ [] →
    (∀ p ∈ members, Readable p.2.1 p.2.2) → ∀ (fuel : ℕ) (rest : List Char),
      (commaJoin (members.map fun p => Document.prettyEntry inner (p.1, p.2.1))).length + 1 ≤ fuel →
      parseMembers fuel (commaJoin (members.map fun p => Document.prettyEntry inner (p.1, p.2.1)) ++
        (Document.indent depth ++ '}' :: rest)) = some (members.map fun p => (p.1, p.2.2), rest) := by
  have hquote : isJsonSpace '"' = false := by decide
  have hcolon : isJsonSpace ':' = false := by decide
  have hclose : isJsonSpace '}' = false := by decide
  have hcomma : isJsonSpace ',' = false := by decide
  intro members
  induction members with
  | nil => exact fun h => absurd rfl h
  | cons p members ih =>
    intro _ hall fuel rest hfuel
    obtain ⟨hp, hrest⟩ := List.forall_mem_cons.1 hall
    obtain ⟨fuel, rfl⟩ : ∃ k, fuel = k + 1 := ⟨fuel - 1, by omega⟩
    have hlen := commaJoin_cons_length (Document.prettyEntry inner (p.1, p.2.1))
      (members.map fun p => Document.prettyEntry inner (p.1, p.2.1))
    have hentry : p.2.1.length ≤ (Document.prettyEntry inner (p.1, p.2.1)).length := by
      unfold Document.prettyEntry
      simp only [List.length_append, List.length_cons]
      omega
    rw [List.map_cons] at hfuel ⊢
    -- the member at the head of the input, whatever follows
    have hhead : ∀ tail, Delimited tail → parseMembers (fuel + 1) (Document.prettyEntry inner (p.1, p.2.1) ++ tail) =
        match skipSpace tail with
        | '}' :: rest => some ([(p.1, p.2.2)], rest)
        | ',' :: rest => (parseMembers fuel rest).bind fun members =>
            some ((p.1, p.2.2) :: members.1, members.2)
        | _ => none := by
      intro tail htail
      have hread := hp fuel tail (by omega) htail
      simp only [Document.prettyEntry, quoteChars, List.append_assoc, List.cons_append, List.nil_append, parseMembers,
        skipSpace_indent, skipSpace_cons hquote, readString_quoteChars, Option.bind_eq_bind, Option.bind_some,
        skipSpace_cons hcolon, parseValue_space (skipSpace_blank _), hread]
    cases members with
    | nil =>
      simp only [List.map_nil, commaJoin, hhead (Document.indent depth ++ '}' :: rest) (Or.inr (Or.inr (Or.inr rfl))),
        skipSpace_indent, skipSpace_cons hclose, List.map_cons]
    | cons q members =>
      simp only [List.map_cons, reduceCtorEq, if_false] at hlen hfuel ih ⊢
      have hothers := ih (by simp) hrest fuel rest (by omega)
      rw [show commaJoin (Document.prettyEntry inner (p.1, p.2.1) :: Document.prettyEntry inner (q.1, q.2.1) ::
          members.map fun p => Document.prettyEntry inner (p.1, p.2.1)) ++ (Document.indent depth ++ '}' :: rest) =
        Document.prettyEntry inner (p.1, p.2.1) ++ ',' :: (commaJoin (Document.prettyEntry inner (q.1, q.2.1) ::
          members.map fun p => Document.prettyEntry inner (p.1, p.2.1)) ++ (Document.indent depth ++ '}' :: rest)) by
        simp [commaJoin]]
      simp only [hhead (',' :: _) (Or.inl rfl), skipSpace_cons hcomma, hothers, Option.bind_some]

theorem commaJoin_cons_append (t : List Char) (texts : List (List Char)) (rest : List Char) :
    ∃ tail, commaJoin (t :: texts) ++ rest = t ++ tail := by
  cases texts with
  | nil => exact ⟨rest, rfl⟩
  | cons u texts => exact ⟨',' :: (commaJoin (u :: texts) ++ rest), by simp [commaJoin]⟩

theorem array_readable {depth : ℕ} {items : List (List Char × GoValue)} (hne : items ≠ [])
    (hall : ∀ p ∈ items, Readable p.1 p.2) (hopen : ∀ p ∈ items, Opening p.1) :
    Readable ('[' :: (commaJoin (items.map fun p => Document.indent (depth + 1) ++ p.1) ++
      (Document.indent depth ++ [']']))) (.array (items.map Prod.snd)) := by
  have hbracket : isJsonSpace '[' = false := by decide
  intro fuel rest hfuel _
  simp only [List.length_cons, List.length_append, List.length_nil] at hfuel
  obtain ⟨fuel, rfl⟩ : ∃ k, fuel = k + 1 := ⟨fuel - 1, by omega⟩
  have hread := items_readable depth (depth + 1) hne hall fuel rest (by omega)
  rw [← parseItems_space (skipSpace_skipSpace _)] at hread
  rw [List.cons_append, List.append_assoc, List.append_assoc, List.singleton_append]
  simp only [parseValue, skipSpace_cons hbracket, Char.reduceEq, if_false, if_true]
  -- the first item does not start like the end of the array
  obtain ⟨p, items, rfl⟩ := List.exists_cons_of_ne_nil hne
  obtain ⟨c, cs, hp, hspace, hc, -⟩ := hopen p List.mem_cons_self
  obtain ⟨tail, htail⟩ := commaJoin_cons_append (Document.indent (depth + 1) ++ p.1)
    (items.map fun p => Document.indent (depth + 1) ++ p.1) (Document.indent depth ++ ']' :: rest)
  rw [List.map_cons, htail, List.append_assoc, skipSpace_indent, hp, List.cons_append, skipSpace_cons hspace] at hread ⊢
  split
  · rename_i heq
    exact absurd (List.cons.inj heq).1 hc
  · rw [hread, Option.map_some]

theorem object_readable {depth : ℕ} {members : List (String × List Char × GoValue)} (hne : members ≠ [])
    (hall : ∀ p ∈ members, Readable p.2.1 p.2.2) (hkeys : (members.map Prod.fst).Nodup) :
    Readable ('{' :: (commaJoin (members.map fun p => Document.prettyEntry (depth + 1) (p.1, p.2.1)) ++
      (Document.indent depth ++ ['}']))) (.object (members.map fun p => (p.1, p.2.2))) := by
  have hbracket : isJsonSpace '{' = false := by decide
  have hquote : isJsonSpace '"' = false := by decide
  intro fuel rest hfuel _
  simp only [List.length_cons, List.length_append, List.length_nil] at hfuel
  obtain ⟨fuel, rfl⟩ : ∃ k, fuel = k + 1 := ⟨fuel - 1, by omega⟩
  have hread := members_readable depth (depth + 1) hne hall fuel rest (by omega)
  rw [← parseMembers_space (skipSpace_skipSpace _)] at hread
  have hproperties := @Record.fromEntries_properties _ (members.map fun p => (p.1, p.2.2))
    (by rw [List.map_map]; exact hkeys)
  rw [List.cons_append, List.append_assoc, List.append_assoc, List.singleton_append]
  simp only [parseValue, skipSpace_cons hbracket, Char.reduceEq, if_false, if_true]
  obtain ⟨p, members, rfl⟩ := List.exists_cons_of_ne_nil hne
  obtain ⟨tail, htail⟩ := commaJoin_cons_append (Document.prettyEntry (depth + 1) (p.1, p.2.1))
    (members.map fun p => Document.prettyEntry (depth + 1) (p.1, p.2.1)) (Document.indent depth ++ '}' :: rest)
  rw [List.map_cons, htail, Document.prettyEntry, List.append_assoc, skipSpace_indent, quoteChars, List.cons_append,
    List.cons_append, List.cons_append, skipSpace_cons hquote] at hread ⊢
  split
  · rename_i heq
    exact absurd (List.cons.inj heq).1 (by decide)
  · rw [hread, Option.map_some, hproperties]

end GoValue

namespace Document

open GoValue

theorem pretty_opening (depth : ℕ) (v : Document) : Opening (prettyChars depth v) := by
  cases v with
  | null => exact ⟨'n', _, rfl, by decide, by decide, by decide⟩
  | bool b => cases b <;> exact ⟨_, _, rfl, by decide, by decide, by decide⟩
  | number n =>
    obtain ⟨c, cs, hcs⟩ := List.exists_cons_of_ne_nil (intChars_spec n).1
    have hc : isNumberChar c = true := (intChars_spec n).2 c (hcs ▸ List.mem_cons_self)
    refine ⟨c, cs, hcs, (numberChar_ne hc).1, ?_, ?_⟩
    · rintro rfl
      exact absurd hc (by decide)
    · rintro rfl
      exact absurd hc (by decide)
  | string s => exact ⟨'"', _, rfl, by decide, by decide, by decide⟩
  | array items =>
    rw [prettyChars]
    split
    · exact ⟨'[', _, rfl, by decide, by decide, by decide⟩
    · exact ⟨'[', _, rfl, by decide, by decide, by decide⟩
  | object members =>
    rw [prettyChars]
    split
    · exact ⟨'{', _, rfl, by decide, by decide, by decide⟩
    · exact ⟨'{', _, rfl, by decide, by decide, by decide⟩

theorem array_pretty {depth : ℕ} {items : List Document}
    (hall : ∀ v ∈ items, Readable (prettyChars (depth + 1) v) (decoded v)) :
    Readable (prettyChars depth (.array items)) (decoded (.array items)) := by
  rw [prettyChars, decoded, decodedItems_map, prettyItems_map]
  cases items with
  | nil =>
    intro fuel rest hfuel _
    obtain ⟨fuel, rfl⟩ : ∃ k, fuel = k + 1 := ⟨fuel - 1, by simp at hfuel; omega⟩
    simp [GoValue.parseValue, skipSpace, isJsonSpace]
  | cons first rest =>
    have hread := @array_readable depth ((first :: rest).map fun v => (prettyChars (depth + 1) v, decoded v)) (by simp)
      (fun p hp => by
        obtain ⟨v, hv, rfl⟩ := List.mem_map.1 hp
        exact hall v hv)
      (fun p hp => by
        obtain ⟨v, -, rfl⟩ := List.mem_map.1 hp
        exact pretty_opening (depth + 1) v)
    rw [List.map_map, List.map_map] at hread
    exact hread

theorem object_pretty {depth : ℕ} {members : List (String × Document)} (hkeys : (members.map Prod.fst).Nodup)
    (hall : ∀ p ∈ members, Readable (prettyChars (depth + 1) p.2) (decoded p.2)) :
    Readable (prettyChars depth (.object members)) (decoded (.object members)) := by
  rw [prettyChars, decoded, decodedEntries_map, prettyEntries_map, ownOrder_map, ownOrder_map]
  cases members with
  | nil =>
    intro fuel rest hfuel _
    obtain ⟨fuel, rfl⟩ : ∃ k, fuel = k + 1 := ⟨fuel - 1, by simp at hfuel; omega⟩
    simp [GoValue.parseValue, skipSpace, isJsonSpace, ownOrder]
  | cons first rest =>
    have hperm := ownOrder_perm (first :: rest)
    have hread := @object_readable depth ((ownOrder (first :: rest)).map fun p =>
        (p.1, prettyChars (depth + 1) p.2, decoded p.2))
      (fun hnil => by
        rw [List.map_eq_nil_iff] at hnil
        rw [hnil] at hperm
        exact absurd hperm.length_eq (by simp))
      (fun p hp => by
        obtain ⟨q, hq, rfl⟩ := List.mem_map.1 hp
        exact hall q (hperm.mem_iff.1 hq))
      (by
        rw [List.map_map]
        exact (hperm.map Prod.fst).nodup_iff.2 hkeys)
    rw [List.map_map, List.map_map] at hread
    rw [List.map_map]
    exact hread

mutual
/-- **The indented text of a document is read as what the decoder makes of it.** -/
theorem pretty_readable : ∀ (v : Document) (depth : ℕ), Plain v → Readable (prettyChars depth v) (decoded v)
  | .null, _, _ => @word_readable 'n' "ull" .null fun fuel rest => by
      simp [GoValue.parseValue, skipSpace, isJsonSpace, expectWord]
  | .bool true, _, _ => @word_readable 't' "rue" (.bool true) fun fuel rest => by
      simp [GoValue.parseValue, skipSpace, isJsonSpace, expectWord]
  | .bool false, _, _ => @word_readable 'f' "alse" (.bool false) fun fuel rest => by
      simp [GoValue.parseValue, skipSpace, isJsonSpace, expectWord]
  | .number n, _, _ => number_readable n
  | .string s, _, _ => string_readable s
  | .array items, depth, h => array_pretty (items_pretty items (depth + 1) h)
  | .object members, depth, h => object_pretty h.1.nodup (entries_pretty members (depth + 1) h.2)
theorem items_pretty : ∀ (items : List Document) (depth : ℕ), PlainItems items →
    ∀ v ∈ items, Readable (prettyChars depth v) (decoded v)
  | [], _, _ => fun _ h => absurd h List.not_mem_nil
  | v :: rest, depth, h => List.forall_mem_cons.2 ⟨pretty_readable v depth h.1, items_pretty rest depth h.2⟩
theorem entries_pretty : ∀ (members : List (String × Document)) (depth : ℕ), PlainEntries members →
    ∀ p ∈ members, Readable (prettyChars depth p.2) (decoded p.2)
  | [], _, _ => fun _ h => absurd h List.not_mem_nil
  | (_, v) :: rest, depth, h => List.forall_mem_cons.2 ⟨pretty_readable v depth h.1, entries_pretty rest depth h.2⟩
end

/-- **The file of a document that is an object is decoded to its members.** -/
theorem decodeJSONObject_file {members : List (String × Document)} (h : Plain (.object members)) :
    decodeJSONObject (prettyChars 0 (.object members) ++ ['\n']) = .ok (ownOrder (decodedEntries members)) := by
  have hread := pretty_readable (.object members) 0 h (prettyChars 0 (.object members) ++ ['\n']).length ['\n']
    (by rw [List.length_append]; omega) (Or.inr (Or.inr (Or.inr rfl)))
  have hspace : skipSpace ['\n'] = [] := by decide
  rw [decodeJSONObject, hread, decoded]
  simp only [hspace, if_true]

end Document

end SecureSaas.Bootstrap
