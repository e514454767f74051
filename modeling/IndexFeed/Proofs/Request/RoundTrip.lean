import Mathlib.Data.List.Nodup
import IndexFeed.Script.Envelope
import IndexFeed.Settings.Basic

/-! Records read back from the JSON they are written as: requests, their bodies, and settings. -/
namespace IndexFeed
open Json (Readable field? string? optionalString? natural?)

namespace Json

variable {α β : Type} {members : List (String × α)} {key : String}

/-- The value of a key is read where no other member has the key. -/
theorem field?_of_mem {value : α} (hdistinct : (members.map Prod.fst).Nodup)
    (hmem : (key, value) ∈ members) (read : α → Option β) (default : Option β) :
    field? members key read default = read value := by
  have hfound : members.filter (fun member => member.1 == key) = [(key, value)] := by
    induction members with
    | nil => exact absurd hmem List.not_mem_nil
    | cons member rest ih =>
      obtain ⟨hfresh, hdistinct⟩ := List.nodup_cons.mp hdistinct
      have hapart : ∀ other ∈ rest, other.1 ≠ member.1 := by
        intro other hin hsame
        exact hfresh (List.mem_map.mpr ⟨other, hin, hsame⟩)
      rcases List.mem_cons.mp hmem with rfl | hlater
      · rw [List.filter_cons, if_pos (beq_self_eq_true key)]
        exact congrArg _ (List.filter_eq_nil_iff.mpr fun other hin =>
          by simpa using hapart other hin)
      · have hpassed : (member.1 == key) = false := by simpa using (hapart _ hlater).symm
        rw [List.filter_cons, hpassed, if_neg Bool.false_ne_true, ih hdistinct hlater]
  rw [field?, hfound]

/-- A key that is not written has its default. -/
theorem field?_of_notMem (habsent : key ∉ members.map Prod.fst) (read : α → Option β)
    (default : Option β) : field? members key read default = default := by
  have hnone : members.filter (fun member => member.1 == key) = [] :=
    List.filter_eq_nil_iff.mpr fun member hin hsame =>
      habsent (List.mem_map.mpr ⟨member, hin, eq_of_beq hsame⟩)
  rw [field?, hnone]

@[simp] private theorem value?_self (x : Json) : Readable.value? x = some x := rfl

@[simp] private theorem string?_string (text : String) : string? (Json.string text) = some text := rfl

@[simp] private theorem natural?_integer (n : Nat) : natural? (Json.number (.integer n)) = some n := by
  change (if (0 : Int) ≤ n then some (n : Int).toNat else none) = some n
  rw [if_pos (Int.natCast_nonneg n), Int.toNat_natCast]

/-- Every member of a JSON value has a meaning, so that an object loses none of them. -/
@[simp] theorem readableMembers?_object (members : List (String × Json)) :
    readableMembers? (Json.object members) = some members := by
  have hall : members.all (fun member => (Readable.value? member.2).isSome) = true :=
    List.all_eq_true.mpr fun _ _ => rfl
  change (if _ then some members else none) = some members
  rw [if_pos hall]

end Json

@[simp] private theorem Settings.optionalString?_optional (text : Option String) :
    optionalString? (Settings.optional text) = some text := by
  cases text <;> rfl

/-- A target is found among other members, whatever these hold, if they do not use its keys. -/
theorem Target.ofMembers?_append (target : Target) (others : List (String × Json))
    (hdistinct : ((target.members ++ others).map Prod.fst).Nodup) :
    Target.ofMembers? (target.members ++ others) = some target := by
  have hpart (key text : String) (hmem : (key, Json.string text) ∈ target.members) :
      field? (target.members ++ others) key string? none = some text :=
    Json.field?_of_mem hdistinct (List.mem_append_left others hmem) _ _
  rw [ofMembers?, hpart "index" target.index (by simp [members]),
    hpart "type" target.type (by simp [members]), hpart "id" target.id (by simp [members])]
  rfl

private theorem Target.read?_toJson (target : Target) : Target.read? target.toJson = some target := by
  have halone := target.ofMembers?_append [] (by simp [members])
  rw [List.append_nil] at halone
  exact halone

private theorem field?_body {β : Type} (target : Target) (body : Json) (read : Json → Option β) :
    field? (target.members ++ [("body", body)]) "body" read none = read body :=
  Json.field?_of_mem (by simp [Target.members]) (List.mem_append_right _ List.mem_cons_self) _ _

private theorem UpdateBody.read?_toJson (body : UpdateBody) :
    UpdateBody.read? body.toJson = some body := by
  cases body with
  | doc document =>
    have hfound : field? [("doc", document)] "doc" Readable.value? none = some document :=
      Json.field?_of_mem (by simp) List.mem_cons_self _ _
    simp [toJson, read?, hfound]
  | script text =>
    -- A script is read only because its object has no fields to merge.
    have habsent : field? [("script", Json.string text)] "doc" Readable.value? none = none :=
      Json.field?_of_notMem (by simp) _ _
    have hfound : field? [("script", Json.string text)] "script" string? none = some text :=
      Json.field?_of_mem (by simp) List.mem_cons_self _ _
    simp [toJson, read?, habsent, hfound]

private theorem IndexRequest.read?_toJson (request : IndexRequest) :
    IndexRequest.read? request.toJson = some request := by
  have hbody : field? (request.target.members ++ [("body", request.body)]) "body" Readable.value? none =
      some request.body := field?_body request.target request.body _
  have htarget := request.target.ofMembers?_append [("body", request.body)] (by simp [Target.members])
  simp [toJson, read?, hbody, htarget]

private theorem UpdateRequest.read?_toJson (request : UpdateRequest) :
    UpdateRequest.read? request.toJson = some request := by
  have hbody := field?_body request.target request.body.toJson UpdateBody.read?
  have htarget := request.target.ofMembers?_append [("body", request.body.toJson)]
    (by simp [Target.members])
  simp [toJson, read?, hbody, htarget, UpdateBody.read?_toJson]

private theorem SearchRequest.read?_toJson (request : SearchRequest) :
    SearchRequest.read? request.toJson = some request := by
  obtain ⟨index, type, body⟩ := request
  have hdistinct : ([("index", Json.string index), ("type", .string type), ("body", body)].map
      Prod.fst).Nodup := by simp
  have hindex := Json.field?_of_mem hdistinct (by simp : ("index", Json.string index) ∈ _) string? none
  have htype := Json.field?_of_mem hdistinct (by simp : ("type", Json.string type) ∈ _) string? none
  have hbody := Json.field?_of_mem hdistinct (by simp : ("body", body) ∈ _) Readable.value? none
  simp [toJson, read?, Readable.members?, Json.members?, hindex, htype, hbody]

private theorem Settings.read?_toJson (settings : Settings) :
    Settings.read? settings.toJson = some settings := by
  obtain ⟨host, index, type, timeout⟩ := settings
  have hdistinct : ([("host", Json.string host), ("index", optional index), ("type", optional type),
      ("timeoutSecs", .number (.integer timeout))].map Prod.fst).Nodup := by simp
  have hhost := Json.field?_of_mem hdistinct (by simp : ("host", Json.string host) ∈ _) string?
    (some defaultHost)
  have hindex := Json.field?_of_mem hdistinct (by simp : ("index", optional index) ∈ _)
    optionalString? (some none)
  have htype := Json.field?_of_mem hdistinct (by simp : ("type", optional type) ∈ _)
    optionalString? (some none)
  have htimeout := Json.field?_of_mem hdistinct
    (by simp : ("timeoutSecs", Json.number (.integer timeout)) ∈ _) natural? (some defaultTimeout)
  simp [toJson, read?, Readable.members?, Json.members?, hhost, hindex, htype,
    htimeout]

private theorem Script.Envelope.read?_toJson (envelope : Envelope) :
    Envelope.read? envelope.toJson = some envelope := by
  have hfound : field? [("script", Json.string envelope.script)] "script" string? none =
      some envelope.script := Json.field?_of_mem (by simp) List.mem_cons_self _ _
  simp [toJson, read?, Readable.members?, Json.members?, hfound]

/-- A record is read back from the JSON it is written as. So is one that was read before, from a value
or from a text: it is not read in another way once it is written again. -/
structure Kept {β : Type} (write : β → Json) (read : {α : Type} → [Readable α] → α → Option β) :
    Prop where
  written : ∀ x, read (write x) = some x
  settled : ∀ {α : Type} [Readable α] (source : α) (x : β), read source = some x →
    read (write x) = some x

private theorem Kept.of_written {β : Type} {write : β → Json}
    {read : {α : Type} → [Readable α] → α → Option β} (h : ∀ x, read (write x) = some x) :
    Kept write read :=
  ⟨h, fun _ x _ => h x⟩

/-- All records are kept, whatever JSON they hold. A compiled script has one JSON on its own and as the
body of an update, which is read as a body with that script. -/
theorem records_kept :
    Kept Script.Envelope.toJson Script.Envelope.read? ∧
    Kept UpdateBody.toJson UpdateBody.read? ∧
    Kept Target.toJson Target.read? ∧
    Kept IndexRequest.toJson IndexRequest.read? ∧
    Kept UpdateRequest.toJson UpdateRequest.read? ∧
    Kept SearchRequest.toJson SearchRequest.read? ∧
    Kept Settings.toJson Settings.read? ∧
    ∀ envelope : Script.Envelope, envelope.toJson = envelope.body.toJson ∧
      UpdateBody.read? envelope.toJson = some (.script envelope.script) :=
  ⟨.of_written Script.Envelope.read?_toJson, .of_written UpdateBody.read?_toJson,
    .of_written Target.read?_toJson, .of_written IndexRequest.read?_toJson,
    .of_written UpdateRequest.read?_toJson, .of_written SearchRequest.read?_toJson,
    .of_written Settings.read?_toJson,
    fun envelope => ⟨rfl, UpdateBody.read?_toJson envelope.body⟩⟩

/-- A body with fields to merge and a script is read as the fields, and settings may be a short list;
both are the same once they are written as objects. -/
theorem unusual_forms_kept :
    let body := Json.object [("script", .string "s"), ("doc", .object [("doc", .null)])]
    let settings := Json.array [.string "es:9200", .null]
    UpdateBody.read? body = some (.doc (.object [("doc", .null)])) ∧
    UpdateBody.read? (UpdateBody.toJson (.doc (.object [("doc", .null)]))) =
      some (.doc (.object [("doc", .null)])) ∧
    Settings.read? settings = some ⟨"es:9200", none, none, 30⟩ ∧
    Settings.read? (Settings.toJson ⟨"es:9200", none, none, 30⟩) =
      some ⟨"es:9200", none, none, 30⟩ := by
  intro body settings
  obtain ⟨-, hbodies, -, -, -, -, hkept, -⟩ := records_kept
  have hbody : UpdateBody.read? body = some (.doc (.object [("doc", .null)])) := rfl
  have hlist : Settings.read? settings = some ⟨"es:9200", none, none, 30⟩ := rfl
  exact ⟨hbody, hbodies.settled body _ hbody, hlist, hkept.settled settings _ hlist⟩

end IndexFeed
