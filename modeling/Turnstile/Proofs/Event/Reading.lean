import Mathlib.Data.List.Nodup
import Turnstile.Event.Inbound
import Turnstile.Proofs.Json.Skipping

/-!
# Reading envelopes

A body says four things: a kind, a player, a time and a payload.  It may say them as an
object, whose members come in any order and among others, or as a list of four.  Both are
read by putting the values into a draft one after the other, and the order in which that
is done does not matter.

Main definitions:

- `EnvelopeDraft.put`, `putAll`: one more value in a draft, and many.
- `EnvelopeValues`, `EnvelopeValues.envelope?`: the four values and what they make up.
- `EnvelopeValues.SaidBy`: the texts that say four values.
- `Body`: a text with blanks around it.

Main results:

- `EnvelopeDraft.put_comm`, `putAll_eq_of_perm`: the order does not matter.
- `completes_membersBytes`, `completes_itemsBytes`: both forms are read by `put`.
- `Envelope.read_bytes_eq_ok_iff`: a body is read as what it says.
-/

namespace Turnstile

open Json

/-! ## Results -/

/-- What a reader comes to, if it comes to anything. -/
def Reads {α : Type} (result : Except Fault (α × List UInt8)) (rest : List UInt8) :
    Option α → Prop
  | some a => result = .ok (a, rest)
  | none => ∀ a left, result ≠ .ok (a, left)

/-- A function may be applied to what is read. -/
theorem Reads.map {α β : Type} {result : Except Fault (α × List UInt8)} {rest : List UInt8}
    {a? : Option α} (h : Reads result rest a?) (f : α → β) :
    Reads (result.map fun (a, rest) => (f a, rest)) rest (a?.map f) := by
  cases a? with
  | some a =>
      rw [Reads] at h
      rw [h]
      rfl
  | none =>
      intro b left hresult
      cases result with
      | error fault => contradiction
      | ok read => exact h read.1 read.2 rfl

/-- Where the inside of a record is left, if all of it is read. -/
def Completes {δ : Type} (result : Except Fault (Shape.Outcome δ)) (rest : List UInt8) :
    Option δ → Prop
  | some draft => result = .ok (.complete draft rest)
  | none => ∀ draft left, result ≠ .ok (.complete draft left)

/-! ## Fields -/

/-- A field accepts neither a list nor an object. -/
structure AcceptsScalars {α : Type} (accept : Got → Except Mismatch α) : Prop where
  sequence : (accept .sequence).toOption = none
  map : (accept .map).toOption = none

theorem acceptsScalars_toText : AcceptsScalars Got.toText :=
  ⟨rfl, rfl⟩

theorem acceptsScalars_toInt64 : AcceptsScalars Got.toInt64 :=
  ⟨rfl, rfl⟩

/-- A scalar that is accepted is read to its end. -/
theorem leftover_of_accept {α : Type} {accept : Got → Except Mismatch α}
    (h : AcceptsScalars accept) {tree : Tree} {value : Value} {a : α}
    (hvalue : tree.value? = some value) (haccept : accept value.got = .ok a) :
    tree.leftover = [] := by
  cases tree with
  | array gap items =>
      obtain ⟨values, -, rfl⟩ := Option.map_eq_some_iff.mp hvalue
      have hnone := h.sequence
      rw [← show (Value.array values).got = .sequence from rfl, haccept] at hnone
      contradiction
  | object gap members =>
      obtain ⟨values, -, rfl⟩ := Option.map_eq_some_iff.mp hvalue
      have hnone := h.map
      rw [← show (Value.object values).got = .map from rfl, haccept] at hnone
      contradiction
  | _ => rfl

/-- A scalar is read as what is accepted of it. -/
theorem reads_readAs {α : Type} {accept : Got → Except Mismatch α}
    (haccept : AcceptsScalars accept) {tree : Tree} {value : Value}
    (hvalue : tree.value? = some value) (blanks : Blanks) {rest : List UInt8}
    (hrest : Stops rest) :
    Reads (readAs accept (blanks.bytes ++ (tree.bytes ++ rest))) rest
      (accept value.got).toOption := by
  unfold readAs
  simp only [bind, Except.bind]
  rw [readScalar_bytes hvalue blanks hrest]
  cases hgot : accept value.got with
  | error mismatch =>
      intro a left
      simp [hgot]
  | ok a =>
      rw [leftover_of_accept haccept hvalue hgot]
      simp only [hgot]
      rfl

/-- Some bytes hold a value for a field: the draft with it is what `put` says, and there
is none when the field has been filled before. -/
structure Holds {δ : Type} (field : RecordField δ) (room : Nat) (bytes rest : List UInt8)
    (put : δ → Option δ) : Prop where
  filled : ∀ draft, field.filled draft = true → put draft = none
  unfilled : ∀ draft, field.filled draft = false →
    Reads (field.fill room draft bytes) rest (put draft)

/-- Fills a place that has not been filled, when there is something to fill it with. -/
def fillOnce {δ α : Type} (filled : δ → Bool) (keep : δ → α → δ) (a? : Option α) (draft : δ) :
    Option δ :=
  if filled draft then none else a?.map (keep draft)

/-- Two places can be filled in either order. -/
theorem fillOnce_comm {δ α β : Type} {filled filled' : δ → Bool} {keep : δ → α → δ}
    {keep' : δ → β → δ} (hfilled : ∀ draft b, filled (keep' draft b) = filled draft)
    (hfilled' : ∀ draft a, filled' (keep draft a) = filled' draft)
    (hkeep : ∀ draft a b, keep (keep' draft b) a = keep' (keep draft a) b)
    (a? : Option α) (b? : Option β) (draft : δ) :
    (fillOnce filled keep a? draft).bind (fillOnce filled' keep' b?) =
      (fillOnce filled' keep' b? draft).bind (fillOnce filled keep a?) := by
  unfold fillOnce
  cases a? <;> cases b? <;> cases h : filled draft <;> cases h' : filled' draft <;>
    simp [hfilled, hfilled', hkeep, h, h']

/-- A scalar is a value for a field that accepts it. -/
theorem holds_scalarField {δ α : Type} (name : String) (optional : Bool) (filled : δ → Bool)
    {accept : Got → Except Mismatch α} (haccept : AcceptsScalars accept) (keep : δ → α → δ)
    (room : Nat) {tree : Tree} {value : Value} (hvalue : tree.value? = some value)
    (blanks : Blanks) {rest : List UInt8} (hrest : Stops rest) :
    Holds (scalarField name optional filled accept keep) room
      (blanks.bytes ++ (tree.bytes ++ rest)) rest
      (fillOnce filled keep (accept value.got).toOption) where
  filled draft hfilled := if_pos hfilled
  unfilled draft hfilled := by
    rw [fillOnce, if_neg (by simpa [scalarField] using hfilled)]
    exact (reads_readAs haccept hvalue blanks hrest).map (keep draft)

/-- The members of a value that is an object. -/
def members? : Value → Option Members
  | .object members => some members
  | _ => none

/-- The members of an object are read, and nothing else is. -/
theorem reads_readMembers {tree : Tree} {value : Value} (hvalue : tree.value? = some value)
    {room : Nat} (hroom : value.depth ≤ room) (blanks : Blanks) {rest : List UInt8}
    (hrest : Stops rest) :
    Reads (readMembers room (blanks.bytes ++ (tree.bytes ++ rest))) rest (members? value) := by
  have hscalar := readScalar_bytes hvalue blanks hrest
  cases value with
  | object members => exact readMembers_bytes hvalue hroom blanks hrest
  | _ =>
      intro members left
      simp only [readMembers, bind, Except.bind]
      rw [hscalar]
      simp [Value.got]

/-! ## Drafts -/

/-- A draft with one more value, unless that is not as it should be or was there before.
A stranger has no place in it. -/
def EnvelopeDraft.put (name : String) (value : Value) (draft : EnvelopeDraft) :
    Option EnvelopeDraft :=
  if name = "type" then
    fillOnce (·.kind.isSome) (fun draft s => { draft with kind := some s })
      value.got.toText.toOption draft
  else if name = "playerId" then
    fillOnce (·.playerId.isSome) (fun draft s => { draft with playerId := some s })
      value.got.toText.toOption draft
  else if name = "ts" then
    fillOnce (·.timestamp.isSome) (fun draft n => { draft with timestamp := some n })
      value.got.toInt64.toOption draft
  else if name = "payload" then
    fillOnce (·.payload.isSome) (fun draft members => { draft with payload := some members })
      (members? value) draft
  else some draft

@[simp]
theorem EnvelopeDraft.put_type (value : Value) :
    put "type" value =
      fillOnce (·.kind.isSome) (fun draft s => { draft with kind := some s })
        value.got.toText.toOption :=
  funext fun _ => by simp [put]

@[simp]
theorem EnvelopeDraft.put_playerId (value : Value) :
    put "playerId" value =
      fillOnce (·.playerId.isSome) (fun draft s => { draft with playerId := some s })
        value.got.toText.toOption :=
  funext fun _ => by simp [put]

@[simp]
theorem EnvelopeDraft.put_ts (value : Value) :
    put "ts" value =
      fillOnce (·.timestamp.isSome) (fun draft n => { draft with timestamp := some n })
        value.got.toInt64.toOption :=
  funext fun _ => by simp [put]

@[simp]
theorem EnvelopeDraft.put_payload (value : Value) :
    put "payload" value =
      fillOnce (·.payload.isSome) (fun draft members => { draft with payload := some members })
        (members? value) :=
  funext fun _ => by simp [put]

/-- A field has one of the four names. -/
theorem Envelope.name_of_field? {name : String} {field : RecordField EnvelopeDraft}
    (h : Envelope.shape.field? name = some field) :
    name = "type" ∨ name = "playerId" ∨ name = "ts" ∨ name = "payload" := by
  have hname := List.find?_some h
  have hmem := List.mem_of_find?_eq_some h
  rw [beq_iff_eq] at hname
  subst hname
  simp only [Envelope.shape, scalarField, List.mem_cons, List.not_mem_nil, or_false] at hmem
  rcases hmem with rfl | rfl | rfl | rfl <;> simp

/-- A stranger is left out. -/
theorem EnvelopeDraft.put_of_stranger {name : String} (h : Envelope.shape.field? name = none)
    (value : Value) (draft : EnvelopeDraft) : draft.put name value = some draft := by
  have hother (known : String) (hknown : (Envelope.shape.field? known).isSome) : name ≠ known := by
    rintro rfl
    simp [h] at hknown
  rw [put, if_neg (hother "type" rfl), if_neg (hother "playerId" rfl), if_neg (hother "ts" rfl),
    if_neg (hother "payload" rfl)]

/-- The value of a member is put into the draft under its name. -/
theorem Envelope.holds_put {name : String} {field : RecordField EnvelopeDraft}
    (h : Envelope.shape.field? name = some field) {tree : Tree} {value : Value}
    (hvalue : tree.value? = some value) {room : Nat}
    (hroom : name = "payload" → value.depth ≤ room) (blanks : Blanks) {rest : List UInt8}
    (hrest : Stops rest) :
    Holds field room (blanks.bytes ++ (tree.bytes ++ rest)) rest
      (EnvelopeDraft.put name value) := by
  rcases name_of_field? h with rfl | rfl | rfl | rfl
  · obtain rfl := Option.some.inj h
    exact holds_scalarField _ _ _ acceptsScalars_toText _ room hvalue blanks hrest
  · obtain rfl := Option.some.inj h
    exact holds_scalarField _ _ _ acceptsScalars_toText _ room hvalue blanks hrest
  · obtain rfl := Option.some.inj h
    exact holds_scalarField _ _ _ acceptsScalars_toInt64 _ room hvalue blanks hrest
  · obtain rfl := Option.some.inj h
    constructor
    · intro draft hfilled
      exact if_pos hfilled
    · intro draft hfilled
      have hread := (reads_readMembers hvalue (hroom rfl) blanks hrest).map
        fun members => { draft with payload := some members }
      simp only at hfilled
      simpa [EnvelopeDraft.put, fillOnce, hfilled] using hread

/-- A place that is filled leaves the others as they are. -/
theorem filled_of_fillOnce {δ α : Type} {filled filled' : δ → Bool} {keep : δ → α → δ}
    (hkeep : ∀ draft a, filled' (keep draft a) = filled' draft) {a? : Option α} {draft next : δ}
    (hfill : fillOnce filled keep a? draft = some next) : filled' next = filled' draft := by
  unfold fillOnce at hfill
  split at hfill
  · contradiction
  · obtain ⟨a, -, rfl⟩ := Option.map_eq_some_iff.mp hfill
    exact hkeep draft a

/-- What is put under one name does not fill the field of another. -/
theorem EnvelopeDraft.filled_of_put {name other : String} {value : Value}
    {draft next : EnvelopeDraft} {field field' : RecordField EnvelopeDraft}
    (hput : draft.put name value = some next) (hname : Envelope.shape.field? name = some field)
    (hother : Envelope.shape.field? other = some field') (h : name ≠ other) :
    field'.filled next = field'.filled draft := by
  rcases Envelope.name_of_field? hname with rfl | rfl | rfl | rfl <;>
    rcases Envelope.name_of_field? hother with rfl | rfl | rfl | rfl <;>
    first
      | exact absurd rfl h
      | obtain rfl := Option.some.inj hother
        simp only [put_type, put_playerId, put_ts, put_payload] at hput
        refine filled_of_fillOnce ?_ hput
        intros
        rfl

/-- The order of two values under different names does not matter. -/
theorem EnvelopeDraft.put_comm {name other : String} (h : name ≠ other) (value what : Value)
    (draft : EnvelopeDraft) :
    (put name value draft).bind (put other what) =
      (put other what draft).bind (put name value) := by
  cases hname : Envelope.shape.field? name with
  | none =>
      have hstranger := put_of_stranger hname value
      cases hput : draft.put other what <;> simp [hstranger, hput]
  | some field =>
      cases hother : Envelope.shape.field? other with
      | none =>
          have hstranger := put_of_stranger hother what
          cases hput : draft.put name value <;> simp [hstranger, hput]
      | some field' =>
          rcases Envelope.name_of_field? hname with rfl | rfl | rfl | rfl <;>
            rcases Envelope.name_of_field? hother with rfl | rfl | rfl | rfl <;>
            first
              | exact absurd rfl h
              | simp only [put_type, put_playerId, put_ts, put_payload]
                refine fillOnce_comm ?_ ?_ ?_ _ _ draft <;> intros <;> rfl

/-- Values are put into a draft one after the other. -/
def putAll (draft? : Option EnvelopeDraft) (entries : List (String × Value)) :
    Option EnvelopeDraft :=
  entries.foldl (fun draft? entry => draft?.bind (EnvelopeDraft.put entry.1 entry.2)) draft?

/-- Nothing can be put into a draft that could not be made. -/
theorem putAll_none (entries : List (String × Value)) : putAll none entries = none := by
  induction entries with
  | nil => rfl
  | cons entry entries ih => exact ih

/-- The order of the values does not matter when there is one under each name. -/
theorem putAll_eq_of_perm {entries entries' : List (String × Value)}
    (hperm : entries.Perm entries') (hnames : (entries.map Prod.fst).Nodup)
    (draft? : Option EnvelopeDraft) : putAll draft? entries = putAll draft? entries' := by
  refine hperm.foldl_eq' (fun x hx y hy draft? => ?_) draft?
  by_cases hsame : x.1 = y.1
  · rw [List.inj_on_of_nodup_map hnames hx hy hsame]
  · cases draft? with
    | none => rfl
    | some draft => exact EnvelopeDraft.put_comm hsame x.2 y.2 draft

/-! ## The inside of an envelope -/

/-- The members of an object that concern an envelope, when every name and every value
that matters can be read.  A stranger only needs a name. -/
def envelopeEntries? : List (Member Tree) → Option (List (String × Value))
  | [] => some []
  | member :: members =>
      match text? member.name with
      | none => none
      | some name =>
          match Envelope.shape.field? name with
          | none => envelopeEntries? members
          | some _ =>
              match member.tree.value?, envelopeEntries? members with
              | some value, some entries => some ((name, value) :: entries)
              | _, _ => none

/-- The first member is a stranger or an entry. -/
theorem envelopeEntries?_cons {member : Member Tree} {members : List (Member Tree)}
    {entries : List (String × Value)}
    (h : envelopeEntries? (member :: members) = some entries) :
    ∃ name, text? member.name = some name ∧
      (Envelope.shape.field? name = none ∧ envelopeEntries? members = some entries ∨
        ∃ field value tail, Envelope.shape.field? name = some field ∧
          member.tree.value? = some value ∧ envelopeEntries? members = some tail ∧
          entries = (name, value) :: tail) := by
  rw [envelopeEntries?] at h
  split at h
  · contradiction
  · rename_i name hname
    refine ⟨name, hname, ?_⟩
    split at h
    · exact .inl ⟨‹_›, h⟩
    · split at h
      · exact .inr ⟨_, _, _, ‹_›, ‹_›, ‹_›, (Option.some.inj h).symm⟩
      · contradiction

/-- The rest of an envelope is read into the draft with one more value. -/
theorem completes_bind {result : Except Fault (EnvelopeDraft × List UInt8)}
    {bytes rest : List UInt8} {draft? : Option EnvelopeDraft} (h : Reads result bytes draft?)
    {next : EnvelopeDraft → List UInt8 → Except Fault (Shape.Outcome EnvelopeDraft)}
    {entries : List (String × Value)}
    (hnext : ∀ draft, draft? = some draft →
      Completes (next draft bytes) rest (putAll (some draft) entries)) :
    Completes (result >>= fun read => next read.1 read.2) rest (putAll draft? entries) := by
  cases draft? with
  | some draft =>
      rw [Reads] at h
      rw [h]
      exact hnext draft rfl
  | none =>
      rw [putAll_none]
      intro draft left hresult
      cases result with
      | error fault => contradiction
      | ok read => exact h read.1 read.2 rfl

/-- The object form is read by putting its members into a draft. -/
theorem completes_membersBytes {members : List (Member Tree)} {entries : List (String × Value)}
    (hentries : envelopeEntries? members = some entries) {room : Nat}
    (hroom : ∀ entry ∈ entries, entry.1 = "payload" → entry.2.depth ≤ room) {fuel : Nat}
    (hfuel : members.length < fuel) (first : Bool) (draft : EnvelopeDraft) (gap : Blanks)
    (rest : List UInt8) :
    Completes
      (Envelope.shape.readMembers room fuel first draft
        (gap.bytes ++ (membersBytes first members ++ Byte.closeObject :: rest)))
      rest (putAll (some draft) entries) := by
  induction members generalizing entries fuel first draft gap with
  | nil =>
      obtain ⟨fuel, rfl⟩ := Nat.exists_eq_succ_of_ne_zero (Nat.ne_of_gt hfuel)
      obtain rfl := Option.some.inj hentries
      rw [membersBytes, List.nil_append, Shape.readMembers, nextMember_closed]
      rfl
  | cons member members ih =>
      obtain ⟨fuel, rfl⟩ := Nat.exists_eq_succ_of_ne_zero (Nat.ne_of_gt (Nat.zero_lt_of_lt hfuel))
      have hfuel := Nat.lt_of_succ_lt_succ hfuel
      have hstops := stops_membersBytes member.after members rest
      obtain ⟨name, hname, hmember⟩ := envelopeEntries?_cons hentries
      simp only [Shape.readMembers, membersBytes, List.append_assoc, List.cons_append, bind,
        Except.bind]
      rw [nextMember_entry]
      simp only
      rw [readString_quotedBytes hname]
      rcases hmember with ⟨hfield, htail⟩ | ⟨field, value, tail, hfield, hvalue, htail, rfl⟩
      · simp only [hfield]
        rw [readColon_colon]
        simp only
        rw [skipValue_bytes _ _ hstops]
        exact ih htail hroom hfuel false draft member.after
      · obtain ⟨hhead, hroom⟩ := List.forall_mem_cons.mp hroom
        have hholds := Envelope.holds_put hfield hvalue hhead member.afterColon hstops
        simp only [hfield]
        cases hfilled : field.filled draft with
        | true =>
            rw [if_pos rfl, putAll, List.foldl_cons, Option.bind_some, hholds.filled draft hfilled]
            rw [← putAll, putAll_none]
            intro final left
            simp [pure, Except.pure]
        | false =>
            rw [if_neg (by simp), readColon_colon]
            exact completes_bind (hholds.unfilled draft hfilled) fun next _ =>
              ih htail hroom hfuel false next member.after

/-- The list form is read by putting its elements into a draft. -/
theorem completes_itemsBytes {fields : List (RecordField EnvelopeDraft)}
    (hfields : ∀ field ∈ fields, Envelope.shape.field? field.name = some field)
    (hnames : (fields.map RecordField.name).Nodup) {items : List (Element Tree)}
    {values : List Value} (hvalues : itemValues? items = some values)
    (hlength : values.length = fields.length) {room : Nat}
    (hroom : ∀ entry ∈ (fields.map RecordField.name).zip values,
      entry.1 = "payload" → entry.2.depth ≤ room)
    {draft : EnvelopeDraft} (hunfilled : ∀ field ∈ fields, field.filled draft = false)
    (count : Nat) (title : String) (gap : Blanks) (rest : List UInt8) :
    Completes
      (Shape.readItems room fields count title draft
        (gap.bytes ++ (itemsBytes (count == 0) items ++ Byte.closeList :: rest)))
      rest (putAll (some draft) ((fields.map RecordField.name).zip values)) := by
  induction fields generalizing items values draft count gap with
  | nil =>
      cases items with
      | nil =>
          rw [itemsBytes, List.nil_append, Shape.readItems,
            skipBlanks_blanks_cons gap (by decide)]
          rfl
      | cons item items =>
          obtain ⟨value, tail, -, -, rfl⟩ := itemValues?_cons hvalues
          simp at hlength
  | cons field fields ih =>
      cases items with
      | nil =>
          obtain rfl := Option.some.inj hvalues
          simp at hlength
      | cons item items =>
          obtain ⟨value, values, hvalue, htail, rfl⟩ := itemValues?_cons hvalues
          obtain ⟨b, bytes, hbytes, hopens⟩ := item.tree.bytes_eq_cons
          obtain ⟨hfield, hfields⟩ := List.forall_mem_cons.mp hfields
          obtain ⟨hempty, hunfilled⟩ := List.forall_mem_cons.mp hunfilled
          rw [List.map_cons, List.nodup_cons] at hnames
          rw [List.map_cons, List.zip_cons_cons] at hroom ⊢
          obtain ⟨hhead, hroom⟩ := List.forall_mem_cons.mp hroom
          have hholds := Envelope.holds_put hfield hvalue hhead .none
            (stops_itemsBytes item.after items rest)
          have hread := hholds.unfilled draft hempty
          simp only [Shape.readItems, itemsBytes, List.append_assoc, hbytes, List.cons_append, bind,
            Except.bind]
          rw [nextElement_entry _ _ _ hopens]
          rw [hbytes] at hread
          refine completes_bind hread fun next hput => ?_
          exact ih hfields hnames.2 htail (by simpa using hlength) hroom
            (fun field' hmem => by
              rw [EnvelopeDraft.filled_of_put hput hfield (hfields field' hmem) ?_,
                hunfilled field' hmem]
              rintro hsame
              exact hnames.1 (hsame ▸ List.mem_map_of_mem hmem))
            (count + 1) item.after

/-! ## Bodies -/

/-- The four values of an envelope. -/
structure EnvelopeValues where
  kind : Value
  playerId : Value
  timestamp : Value
  payload : Members

namespace EnvelopeValues

/-- The values under their names. -/
def entries (values : EnvelopeValues) : List (String × Value) :=
  [("type", values.kind), ("playerId", values.playerId), ("ts", values.timestamp),
    ("payload", .object values.payload)]

/-- The envelope of four values, when each is of its kind. -/
def envelope? (values : EnvelopeValues) : Option Envelope := do
  let kind ← values.kind.got.toText.toOption
  let playerId ← values.playerId.got.toText.toOption
  let timestamp ← values.timestamp.got.toInt64.toOption
  return ⟨kind, playerId, timestamp, values.payload⟩

/-- A text that says the four values, as a list or as an object. -/
inductive SaidBy (values : EnvelopeValues) : Tree → Prop
  | list (gap : Blanks) (items : List (Element Tree))
      (said : itemValues? items = some (values.entries.map Prod.snd)) :
      SaidBy values (.array gap items)
  | object (gap : Blanks) (members : List (Member Tree)) (entries : List (String × Value))
      (said : envelopeEntries? members = some entries) (order : entries.Perm values.entries) :
      SaidBy values (.object gap members)

end EnvelopeValues

/-- A body: a text with blanks around it. -/
structure Body where
  before : Blanks
  tree : Tree
  after : Blanks

/-- The bytes of a body. -/
def Body.bytes (body : Body) : List UInt8 :=
  body.before.bytes ++ (body.tree.bytes ++ body.after.bytes)

/-- The draft that is complete when an envelope has been read. -/
def Envelope.draft (envelope : Envelope) : EnvelopeDraft :=
  ⟨some envelope.kind, some envelope.playerId, some envelope.timestamp, some envelope.payload⟩

/-- Putting the four values into a draft makes up the envelope. -/
theorem EnvelopeValues.putAll_entries (values : EnvelopeValues) :
    putAll (some Envelope.shape.blank) values.entries = values.envelope?.map Envelope.draft := by
  unfold putAll EnvelopeValues.entries EnvelopeValues.envelope?
  simp only [List.foldl_cons, List.foldl_nil, EnvelopeDraft.put_type, EnvelopeDraft.put_playerId,
    EnvelopeDraft.put_ts, EnvelopeDraft.put_payload, members?]
  cases values.kind.got.toText.toOption with
  | none => rfl
  | some kind =>
      cases values.playerId.got.toText.toOption with
      | none => rfl
      | some playerId => cases values.timestamp.got.toInt64.toOption <;> rfl

/-- A complete record is concluded to its envelope. -/
theorem Envelope.conclude_of_completes {result : Except Fault (Shape.Outcome EnvelopeDraft)}
    {rest : List UInt8} {envelope? : Option Envelope}
    (h : Completes result rest (envelope?.map Envelope.draft)) :
    Reads (result >>= Envelope.shape.conclude) rest envelope? := by
  cases envelope? with
  | some envelope =>
      rw [Option.map_some, Completes] at h
      rw [h]
      rfl
  | none =>
      intro envelope left hresult
      cases result with
      | error fault => contradiction
      | ok outcome =>
          cases outcome with
          | complete draft rest => exact h draft rest rfl
          | clash mismatch rest => contradiction

/-- The fields of an envelope are found under their names. -/
theorem Envelope.field?_name (field : RecordField EnvelopeDraft)
    (h : field ∈ Envelope.shape.fields) : Envelope.shape.field? field.name = some field := by
  simp only [shape, List.mem_cons, List.not_mem_nil, or_false] at h
  rcases h with rfl | rfl | rfl | rfl <;> rfl

/-- A text is read as the envelope that it says. -/
theorem Envelope.reads_bytes {values : EnvelopeValues} {tree : Tree} (hsaid : values.SaidBy tree)
    {room : Nat} (hroom : (Value.object values.payload).depth ≤ room) (blanks : Blanks)
    (rest : List UInt8) :
    Reads (Envelope.shape.read (room + 1) (blanks.bytes ++ (tree.bytes ++ rest))) rest
      values.envelope? := by
  have hentry : ∀ entry ∈ values.entries, entry.1 = "payload" → entry.2.depth ≤ room := by
    simpa [EnvelopeValues.entries] using hroom
  cases hsaid with
  | list gap items said =>
      have hunfilled : ∀ field ∈ shape.fields, field.filled shape.blank = false := by
        simp [shape, scalarField]
      have hitems := completes_itemsBytes field?_name (by decide) said rfl hentry hunfilled 0
        shape.lengthTitle gap rest
      have hread := conclude_of_completes (values.putAll_entries ▸ hitems)
      unfold Shape.read
      simp only [bind, Except.bind]
      rw [readScalar_array]
      simpa [Tree.bytes, bind, Except.bind] using hread
  | object gap members entries said order =>
      have hmembers := completes_membersBytes said
        (fun entry hmem => hentry entry (order.mem_iff.mp hmem))
        (length_lt_length_objectBytes gap members rest) true shape.blank gap rest
      have hnames : (entries.map Prod.fst).Nodup := by
        rw [(order.map Prod.fst).nodup_iff]
        exact show ["type", "playerId", "ts", "payload"].Nodup by decide
      rw [putAll_eq_of_perm order hnames, EnvelopeValues.putAll_entries] at hmembers
      have hread := conclude_of_completes hmembers
      unfold Shape.read
      simp only [bind, Except.bind]
      rw [readScalar_object]
      simpa [Tree.bytes, bind, Except.bind] using hread

/-- A body is read as the envelope that it says, and as nothing else. -/
theorem Envelope.read_bytes_eq_ok_iff {values : EnvelopeValues} {body : Body}
    (hsaid : values.SaidBy body.tree)
    (hdepth : (Value.object values.payload).depth < depthLimit) (envelope : Envelope) :
    Envelope.read body.bytes = .ok envelope ↔ values.envelope? = some envelope := by
  have hread := reads_bytes hsaid (Nat.le_of_lt_succ hdepth) body.before body.after.bytes
  have hend := readEnd_blanks body.after
  unfold Envelope.read readText Body.bytes
  cases henvelope : values.envelope? with
  | some said =>
      rw [henvelope, Reads] at hread
      rw [depthLimit, hread]
      simp [bind, Except.bind, hend, pure, Except.pure]
  | none =>
      rw [henvelope] at hread
      simp only [reduceCtorEq, iff_false]
      intro hresult
      cases hshape : shape.read depthLimit
          (body.before.bytes ++ (body.tree.bytes ++ body.after.bytes)) with
      | error fault =>
          rw [hshape] at hresult
          contradiction
      | ok read => exact hread read.1 read.2 hshape

end Turnstile
