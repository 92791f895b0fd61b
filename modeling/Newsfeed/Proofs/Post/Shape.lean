import Newsfeed.Post.Shape
import Newsfeed.Proofs.Json.Reading

/-!
# Posts are read back

`Json.Codes write read` says that `write` makes values without foreign parts and that `read` gives
back what each was made of.  A record that is written with all its fields, under distinct names, is
taken apart into these fields (`Record.ofJson?_object`), so that each part of a post is read back
when its own parts are, whatever they default to.
-/

namespace Newsfeed

namespace Json

/-- Plain values are written, and reading them gives back what was written. -/
structure Codes {α : Type} (write : α → Json) (read : Json → Option α) : Prop where
  plain : ∀ a, (write a).Plain
  reads : ∀ a, read (write a) = some a

theorem codes_string : Codes string string? := ⟨.string, fun _ => rfl⟩

theorem codes_ofInt64 : Codes ofInt64 int64? := ⟨fun n => .int n.toInt, Word.ofInt?_toInt⟩

namespace Codes

variable {α : Type} {write : α → Json} {read : Json → Option α} (h : Codes write read)

include h

/-- Null stands for an absent value, so nothing else may be written as null. -/
theorem nullable (hnull : ∀ a, write a ≠ null) : Codes (ofOption write) (Record.nullable read) where
  plain
    | none => .null
    | some a => h.plain a
  reads
    | none => rfl
    | some a => by
      have hread : Record.nullable read (write a) = (read (write a)).map some := by
        cases hw : write a with
        | null => exact absurd hw (hnull a)
        | _ => rfl
      rw [ofOption, hread, h.reads]
      rfl

theorem list : Codes (ofList write) (list? read) where
  plain _ := .array (List.forall_mem_map.2 fun a _ => h.plain a)
  reads as := by
    show (as.map write).mapM read = some as
    induction as with
    | nil => rfl
    | cons a as ih => simp [h.reads, ih]

end Codes

end Json

/-! ## Records -/

namespace Record

theorem allDistinct_of_nodup {fields : List (String × Json)} (h : (fields.map Prod.fst).Nodup) :
    allDistinct fields = true := by
  induction fields with
  | nil => rfl
  | cons f fields ih =>
    obtain ⟨name, v⟩ := f
    obtain ⟨hname, hrest⟩ := List.nodup_cons.1 h
    have hany : fields.any (·.1 = name) = false := by
      refine List.any_eq_false.2 fun g hg heq => hname ?_
      exact List.mem_map.2 ⟨g, hg, of_decide_eq_true heq⟩
    rw [allDistinct, hany, ih hrest]
    rfl

/-- An object with all declared fields, each once, is taken apart into them. -/
theorem ofJson?_object {names : List String} {fields : List (String × Json)}
    (hnames : fields.map Prod.fst = names) (hdistinct : names.Nodup) :
    ofJson? names (.object fields) = some ⟨false, fields⟩ := by
  have hknown : fields.filter (fun f => names.contains f.1) = fields := by
    refine List.filter_eq_self.2 fun f hf => List.contains_iff_mem.2 ?_
    exact hnames ▸ List.mem_map_of_mem hf
  rw [ofJson?, hknown, if_pos (allDistinct_of_nodup (hnames ▸ hdistinct))]

variable {α : Type} {write : α → Json} {read : Json → Option α} (h : Json.Codes write read)
  {r : Record} {name : String}

include h

/-- A required field is read back. -/
theorem required_of_get? {a : α} (hget : r.get? name = some (write a)) :
    r.required name read = some a := by
  rw [required, hget]
  exact h.reads a

/-- A field is read back that has a default when it is absent. -/
theorem defaulted_of_get? {a b : α} (hget : r.get? name = some (write a)) :
    r.defaulted name read b = some a := by
  rw [defaulted, hget]
  exact h.reads a

end Record

/-! ## The parts of a post -/

section Parts

open Json Record

theorem Offset.codes {s : Space} : Codes (Offset.toJson (s := s)) Offset.ofJson? where
  plain a := .int a.toInt
  reads a := by simp [toJson, ofJson?, int64?, toInt]

theorem Span.codes {s : Space} : Codes (Span.toJson (s := s)) Span.ofJson? where
  plain span := .array (by simp [Offset.codes.plain])
  reads span := by simp [toJson, ofJson?, Offset.codes.reads]

theorem Json.codes_ofOption_string : Codes (.ofOption .string) (nullable string?) :=
  codes_string.nullable nofun

theorem Author.codes : Codes Author.toJson Author.ofJson? := by
  refine ⟨fun a => .object ?_, fun a => ?_⟩
  · simp [codes_ofInt64.plain, codes_ofOption_string.plain]
  · have hfields : Record.ofJson? fieldNames a.toJson = some ⟨false, _⟩ :=
      Record.ofJson?_object rfl (by decide)
    simp only [ofJson?, hfields, Option.bind_eq_bind, Option.bind_some]
    refine Option.bind_eq_some_iff.2 ⟨a.id, required_of_get? codes_ofInt64 rfl, ?_⟩
    refine Option.bind_eq_some_iff.2 ⟨a.name, defaulted_of_get? codes_ofOption_string rfl, ?_⟩
    refine Option.bind_eq_some_iff.2 ⟨a.handle, defaulted_of_get? codes_ofOption_string rfl, ?_⟩
    rfl

theorem Link.codes : Codes Link.toJson Link.ofJson? := by
  refine ⟨fun l => .object ?_, fun l => ?_⟩
  · simp [codes_string.plain, codes_ofOption_string.plain, Span.codes.plain]
  · have hfields : Record.ofJson? fieldNames l.toJson = some ⟨false, _⟩ :=
      Record.ofJson?_object rfl (by decide)
    simp only [ofJson?, hfields, Option.bind_eq_bind, Option.bind_some]
    refine Option.bind_eq_some_iff.2 ⟨l.url, required_of_get? codes_string rfl, ?_⟩
    refine Option.bind_eq_some_iff.2 ⟨l.expanded, defaulted_of_get? codes_ofOption_string rfl, ?_⟩
    refine Option.bind_eq_some_iff.2 ⟨l.shown, defaulted_of_get? codes_ofOption_string rfl, ?_⟩
    refine Option.bind_eq_some_iff.2 ⟨l.span, required_of_get? Span.codes rfl, ?_⟩
    rfl

theorem Media.codes : Codes Media.toJson Media.ofJson? := by
  refine ⟨fun m => .object ?_, fun m => ?_⟩
  · simp [codes_string.plain, codes_ofOption_string.plain, Span.codes.plain, codes_ofInt64.plain]
  · have hfields : Record.ofJson? fieldNames m.toJson = some ⟨false, _⟩ :=
      Record.ofJson?_object rfl (by decide)
    simp only [ofJson?, hfields, Option.bind_eq_bind, Option.bind_some]
    refine Option.bind_eq_some_iff.2 ⟨m.url, required_of_get? codes_string rfl, ?_⟩
    refine Option.bind_eq_some_iff.2 ⟨m.expanded, defaulted_of_get? codes_ofOption_string rfl, ?_⟩
    refine Option.bind_eq_some_iff.2 ⟨m.shown, defaulted_of_get? codes_ofOption_string rfl, ?_⟩
    refine Option.bind_eq_some_iff.2 ⟨m.span, required_of_get? Span.codes rfl, ?_⟩
    refine Option.bind_eq_some_iff.2 ⟨m.id, defaulted_of_get? codes_ofInt64 rfl, ?_⟩
    refine Option.bind_eq_some_iff.2 ⟨m.image, defaulted_of_get? codes_ofOption_string rfl, ?_⟩
    refine Option.bind_eq_some_iff.2 ⟨m.kind, defaulted_of_get? codes_ofOption_string rfl, ?_⟩
    rfl

theorem Hashtag.codes : Codes Hashtag.toJson Hashtag.ofJson? := by
  refine ⟨fun h => .object ?_, fun h => ?_⟩
  · simp [codes_string.plain, Span.codes.plain]
  · have hfields : Record.ofJson? fieldNames h.toJson = some ⟨false, _⟩ :=
      Record.ofJson?_object rfl (by decide)
    simp only [ofJson?, hfields, Option.bind_eq_bind, Option.bind_some]
    refine Option.bind_eq_some_iff.2 ⟨h.text, required_of_get? codes_string rfl, ?_⟩
    refine Option.bind_eq_some_iff.2 ⟨h.span, required_of_get? Span.codes rfl, ?_⟩
    rfl

theorem Mention.codes : Codes Mention.toJson Mention.ofJson? := by
  refine ⟨fun m => .object ?_, fun m => ?_⟩
  · simp [codes_string.plain, codes_ofOption_string.plain, codes_ofInt64.plain, Span.codes.plain]
  · have hfields : Record.ofJson? fieldNames m.toJson = some ⟨false, _⟩ :=
      Record.ofJson?_object rfl (by decide)
    simp only [ofJson?, hfields, Option.bind_eq_bind, Option.bind_some]
    refine Option.bind_eq_some_iff.2 ⟨m.handle, required_of_get? codes_string rfl, ?_⟩
    refine Option.bind_eq_some_iff.2 ⟨m.name, defaulted_of_get? codes_ofOption_string rfl, ?_⟩
    refine Option.bind_eq_some_iff.2 ⟨m.id, defaulted_of_get? codes_ofInt64 rfl, ?_⟩
    refine Option.bind_eq_some_iff.2 ⟨m.span, required_of_get? Span.codes rfl, ?_⟩
    rfl

theorem Entities.codes : Codes Entities.toJson Entities.ofJson? := by
  have hlinks := Link.codes.list.nullable nofun
  have hmedia := Media.codes.list.nullable nofun
  have hhashtags := Hashtag.codes.list.nullable nofun
  have hmentions := Mention.codes.list.nullable nofun
  refine ⟨fun e => .object ?_, fun e => ?_⟩
  · simp [hlinks.plain, hmedia.plain, hhashtags.plain, hmentions.plain]
  · have hfields : Record.ofJson? fieldNames e.toJson = some ⟨false, _⟩ :=
      Record.ofJson?_object rfl (by decide)
    simp only [ofJson?, hfields, Option.bind_eq_bind, Option.bind_some]
    refine Option.bind_eq_some_iff.2 ⟨e.links, defaulted_of_get? hlinks rfl, ?_⟩
    refine Option.bind_eq_some_iff.2 ⟨e.media, defaulted_of_get? hmedia rfl, ?_⟩
    refine Option.bind_eq_some_iff.2 ⟨e.hashtags, defaulted_of_get? hhashtags rfl, ?_⟩
    refine Option.bind_eq_some_iff.2 ⟨e.mentions, defaulted_of_get? hmentions rfl, ?_⟩
    rfl

theorem Post.codes : Codes Post.toJson Post.ofJson? := by
  have hentities := Entities.codes.nullable nofun
  have hauthor := Author.codes.nullable nofun
  refine ⟨fun p => .object ?_, fun p => ?_⟩
  · simp [codes_ofInt64.plain, codes_ofOption_string.plain, hentities.plain, hauthor.plain]
  · have hfields : Record.ofJson? fieldNames p.toJson = some ⟨false, _⟩ :=
      Record.ofJson?_object rfl (by decide)
    simp only [ofJson?, hfields, Option.bind_eq_bind, Option.bind_some]
    refine Option.bind_eq_some_iff.2 ⟨p.id, required_of_get? codes_ofInt64 rfl, ?_⟩
    refine Option.bind_eq_some_iff.2 ⟨p.text, defaulted_of_get? codes_ofOption_string rfl, ?_⟩
    refine Option.bind_eq_some_iff.2 ⟨p.entities, defaulted_of_get? hentities rfl, ?_⟩
    refine Option.bind_eq_some_iff.2 ⟨p.author, defaulted_of_get? hauthor rfl, ?_⟩
    refine Option.bind_eq_some_iff.2 ⟨p.createdAt, defaulted_of_get? codes_ofOption_string rfl, ?_⟩
    rfl

end Parts

/-! ## Posts -/

namespace Post

/-- The post that a text is, if it is one. -/
def read? (text : String) : Option Post := (Json.read? text).bind ofJson?

/-- Every post is read back from the texts that are written of it, in the compact form and in the
indented one. So what is read of any text is also read of the text that is written of it. -/
theorem read?_write_toJson :
    (∀ p : Post, read? p.toJson.write = some p ∧ read? p.toJson.writePretty = some p) ∧
    ∀ text, (read? text).bind (fun p => read? p.toJson.write) = read? text := by
  have hwrite (p : Post) : read? p.toJson.write = some p := by
    rw [read?, (codes.plain p).read?_write]
    exact codes.reads p
  have hpretty (p : Post) : read? p.toJson.writePretty = some p := by
    rw [read?, (codes.plain p).read?_writePretty]
    exact codes.reads p
  refine ⟨fun p => ⟨hwrite p, hpretty p⟩, fun text => ?_⟩
  cases htext : read? text with
  | none => rfl
  | some p => exact hwrite p

end Post

end Newsfeed
