import PageHarvest.Posting
import PageHarvest.Proofs.Json.Fields
import PageHarvest.Proofs.Json.Writing

/-!
# Renderings of postings

A record of a posting can be given in many ways: each field with its value, as null, or not at all,
in any order, among members of other names, and written with any blanks and escapes.  All of these are
read as the posting with what was not given left empty (`ofText?_rendering`).  That what is stored is
read back is the case in which every field is given.
-/

namespace PageHarvest

open Json Text

/-- How a field of a record is given. -/
inductive Form
  | value | null | missing
  deriving DecidableEq, Repr

namespace Form

/-- What stands in the field, if it is there. -/
def field? : Form → Value → Option Value
  | value, v => some v
  | null, _ => some .null
  | missing, _ => none

/-- What the field says, which is `nothing` unless it has its value. -/
def keep {α : Type} (nothing : α) : Form → α → α
  | value, a => a
  | null, _ => nothing
  | missing, _ => nothing

/-- The members of a record that gives its fields in these forms. -/
def given (form : String → Form) (fields : List (String × Value)) : List (String × Value) :=
  fields.filterMap fun (name, v) => ((form name).field? v).map fun v => (name, v)

variable {form : String → Form}

/-- The first field is given or not, whatever the others are. -/
theorem given_cons (name : String) (v : Value) (fields : List (String × Value)) :
    given form ((name, v) :: fields)
      = (((form name).field? v).map fun v => (name, v)).toList ++ given form fields := by
  simp only [given, List.filterMap_cons]
  cases h : (form name).field? v with
  | none => simp
  | some w => simp

/-- The names that are given are names of fields, in their order. -/
theorem keys_given_sublist (form : String → Form) (fields : List (String × Value)) :
    ((given form fields).map Prod.fst).Sublist (fields.map Prod.fst) := by
  induction fields with
  | nil => exact .slnil
  | cons m fields ih =>
    obtain ⟨name, v⟩ := m
    rw [given_cons]
    cases (form name).field? v with
    | none => exact ih.cons name
    | some w => exact ih.cons_cons name

/-- The field of a name that is given: its value in its form. -/
theorem lookup_given (form : String → Form) (fields : List (String × Value)) (name : String) :
    (given form fields).lookup name = (fields.lookup name).bind (form name).field? := by
  induction fields with
  | nil => rfl
  | cons m fields ih =>
    obtain ⟨k, v⟩ := m
    rw [given_cons, List.lookup_append, ih, List.lookup_cons]
    cases h : name == k with
    | false =>
      cases (form k).field? v with
      | none => rfl
      | some w => simp [List.lookup_cons, h]
    | true =>
      obtain rfl : name = k := by simpa using h
      cases hform : form name with
      | value => simp [field?]
      | null => simp [field?]
      | missing =>
        -- A name that is missing is given nowhere.
        cases fields.lookup name with
        | none => rfl
        | some w => rfl

end Form

namespace Posting

variable {form : String → Form} {p : Posting} {members : List (String × Value)}

/-- The fields and their values. -/
def fields (p : Posting) : List (String × Value) :=
  [("title", .text p.title.toList),
   ("published_at", .text p.publishedAt.toList),
   ("requirements", .array (p.requirements.map fun s => .text s.toList)),
   ("summary", .text p.summary.toList),
   ("stack", .array (p.stack.map fun s => .text s.toList)),
   ("salary", .text p.salary.toList)]

/-- The posting as far as its fields are given with their values. -/
def kept (form : String → Form) (p : Posting) : Posting where
  title := (form "title").keep "" p.title
  publishedAt := (form "published_at").keep "" p.publishedAt
  requirements := (form "requirements").keep [] p.requirements
  summary := (form "summary").keep "" p.summary
  stack := (form "stack").keep [] p.stack
  salary := (form "salary").keep "" p.salary

/-- Of the members of a record, those with the names of fields are the fields in their forms, in any
order. -/
def IsGivenBy (form : String → Form) (p : Posting) (members : List (String × Value)) : Prop :=
  (members.filter fun m => fieldNames.contains m.1).Perm (Form.given form p.fields)

theorem toJson_eq (p : Posting) : p.toJson = .record p.fields := rfl

/-- The fields stand in the order in which they are looked for. -/
theorem keys_fields (p : Posting) : p.fields.map Prod.fst = fieldNames := rfl

theorem nodup_fieldNames : fieldNames.Nodup := by decide

/-! ### Single fields -/

theorem readText?_text (s : String) : readText? (.text s.toList) = some s := by
  rw [readText?, asText?_text, Option.map_some, String.ofList_toList]

/-- A field with a text says the text, if it has its value. -/
theorem textField?_field? (form : Form) (s : String) :
    textField? (form.field? (.text s.toList)) = some (form.keep "" s) := by
  cases form with
  | value =>
    rw [Form.field?, textField?, lenient?, optional?,
      asOptional?_of_ne_null _ (by simp [Value.text]), readText?_text]
    rfl
  | null => rfl
  | missing => rfl

theorem mapM_readText? (ss : List String) :
    (ss.map fun s => Value.text s.toList).mapM readText? = some ss := by
  induction ss with
  | nil => rfl
  | cons s ss ih => simp [readText?_text, ih]

/-- A field with a list says the list, if it has its value. -/
theorem listField?_field? (form : Form) (ss : List String) :
    listField? (form.field? (.array (ss.map fun s => .text s.toList))) = some (form.keep [] ss) := by
  cases form with
  | value =>
    rw [Form.field?, listField?, lenient?, optional?, asOptional?_of_ne_null _ (by simp),
      Value.asList?, mapM_readText?]
    rfl
  | null => rfl
  | missing => rfl

/-! ### Records -/

/-- A record that gives the fields in some forms is read as what they say. -/
theorem ofJson?_record (h : p.IsGivenBy form members) :
    ofJson? (.record members) = some (p.kept form) := by
  -- No field is given twice, which would be an error even as null.
  have hnodup : ((Form.given form p.fields).map Prod.fst).Nodup :=
    (Form.keys_given_sublist form p.fields).nodup (by rw [keys_fields]; exact nodup_fieldNames)
  have hfields : (Value.record members).fields? fieldNames 0
      = some [(form "title").field? (.text p.title.toList),
        (form "published_at").field? (.text p.publishedAt.toList),
        (form "requirements").field? (.array (p.requirements.map fun s => .text s.toList)),
        (form "summary").field? (.text p.summary.toList),
        (form "stack").field? (.array (p.stack.map fun s => .text s.toList)),
        (form "salary").field? (.text p.salary.toList)] := by
    rw [fields?_record h hnodup 0]
    simp only [Form.lookup_given]
    rfl
  rw [ofJson?, hfields]
  simp only [textField?_field?, listField?_field?]
  rfl

/-- A posting whose fields all have their values is given by them. -/
theorem isGivenBy_fields (p : Posting) : p.IsGivenBy (fun _ => .value) p.fields := .refl _

theorem isSound_texts (ss : List String) :
    (Value.array (ss.map fun s => .text s.toList)).IsSound := by
  refine .array fun v hv => ?_
  obtain ⟨s, -, rfl⟩ := List.mem_map.1 hv
  exact .string _

/-- The record has only sound values, so that it can be written. -/
theorem isSound_toJson (p : Posting) : p.toJson.IsSound := by
  refine Value.isSound_record ?_
  simp only [List.forall_mem_cons]
  exact ⟨.string _, .string _, isSound_texts _, .string _, isSound_texts _, .string _, by simp⟩

/-- **Renderings of a posting.**  Any text of a record that gives the fields in some forms, in any
order and among other members, is read as what the forms say, and the text of the posting is read as
the posting itself. -/
theorem ofText?_rendering (p : Posting) :
    (∀ form members s, p.IsGivenBy form members → (Value.record members).IsWrittenAs s →
      ofText? s = some (p.kept form)) ∧
    ofText? p.toText = some p := by
  constructor
  · intro form members s hgiven hwritten
    rw [ofText?, ofText?_of_isWrittenAs hwritten, Option.bind_some, ofJson?_record hgiven]
  · rw [ofText?, toText, ofText?_write p.isSound_toJson, Option.bind_some, toJson_eq,
      ofJson?_record p.isGivenBy_fields]
    rfl

/-- A field that is null, one that is escaped, and between them a list that is not read into, with
half of a pair in it. -/
theorem ofText?_rendering_among_others :
    ofText? ("\x7b\"stack\" : null, \"url\":[-1.5E+3,\"\\ud800\"],".toList
        ++ "\"title\":\"caf\\u00e9 \\ud83d\\ude00\"\x7d".toList)
      = some { title := "café 😀" } := by
  have hblank : IsBlanks [' '] := List.all_eq_true.1 rfl
  have hplain (s : String) := isSpelled_flatMap (Symbol.ofText s.toList)
  have hunit {n : Nat} {ds : List Char}
      (h : ds.length = 4 ∧ (ds.mapM Hex.value?).map Hex.ofDigits = some n) : IsUnit n ds := h
  have hdigit {d : Char} (h : [d].all Char.isDigit = true) : IsDigits [d] :=
    ⟨List.cons_ne_nil d [], List.all_eq_true.1 h⟩
  -- From the inside out: the list that is not read into, the title, and then the members.
  have hnumber : IsNumber "-1.5E+3".toList :=
    .parts (.inr rfl)
      (.digits (hdigit (d := '1') rfl) (by decide))
      (.digits (hdigit (d := '5') rfl))
      (.digits (.inr rfl) (.inr (.inl rfl)) (hdigit (d := '3') rfl))
  have hhalf : IsSpelled [none] "\\ud800".toList :=
    .half isUnit_gap (.inl (by rw [IsLead]; decide))
      (fun _ => not_beginsWithTrail_writeSymbol []) .nil
  have hurl : (Part.value (.array [.number "-1.5E+3".toList, .string [none]])).IsWritten
      "[-1.5E+3,\"\\ud800\"]".toList :=
    .array (.item isBlanks_nil isBlanks_nil (.number hnumber)
      (.lastItem isBlanks_nil isBlanks_nil (.string hhalf)))
  have haccent : IsUnit 'é'.toNat ['0', '0', 'e', '9'] := hunit (by decide)
  have hlead : IsUnit 0xD83D ['d', '8', '3', 'd'] := hunit (by decide)
  have htrail : IsUnit 0xDE00 ['d', 'e', '0', '0'] := hunit (by decide)
  have hsmile := IsSpelled.pair hlead htrail (by rw [IsLead]; decide) (by rw [IsTrail]; decide) .nil
  rw [show pairChar 0xD83D 0xDE00 = '😀' by decide] at hsmile
  have htitle : IsSpelled (Symbol.ofText "café 😀".toList) "caf\\u00e9 \\ud83d\\ude00".toList :=
    .plain (by decide) (by decide) (by decide)
      (.plain (by decide) (by decide) (by decide)
        (.plain (by decide) (by decide) (by decide)
          (.unit haccent (.plain (by decide) (by decide) (by decide) hsmile))))
  have hmembers := Part.IsWritten.member isBlanks_nil hblank hblank isBlanks_nil (hplain "stack")
    .null (.member hblank isBlanks_nil isBlanks_nil isBlanks_nil (hplain "url") hurl
      (.lastMember isBlanks_nil isBlanks_nil isBlanks_nil isBlanks_nil (hplain "title")
        (.string htitle)))
  refine (ofText?_rendering { title := "café 😀", salary := "1" }).1
    (fun name => if name = "stack" then .null else if name = "title" then .value else .missing)
    [("stack", .null), ("url", .array [.number "-1.5E+3".toList, .string [none]]),
      ("title", .text "café 😀".toList)] _ ?_
    ⟨[], _, [], isBlanks_nil, .object hmembers, isBlanks_nil, ?_⟩
  · exact .swap _ _ _
  · decide

end Posting

end PageHarvest
