/-
This file defines what `sybase_open` does before it makes a connection: it checks the name of the
user and of the database, and finds the character set for the server and the encoding for the
client, one from the other. It writes both back into the Datasource, so that the next opening starts
from them. They agree whichever was there first, and they stay as they are over any sequence of
openings. The encoding that `connection::init` sets afterwards for a Microsoft server belongs to the
connection and is not written back.
-/

import SybaseDriver.World

namespace Sybase

/-! ### The table -/

/-- The names of the character sets of Sybase and the encodings of Qore, `DO_MAP`. -/
def sybaseEncodings : List (Text × Encoding) :=
  [(text "utf8", ⟨text "UTF-8", true⟩),
    (text "iso_1", ⟨text "ISO-8859-1", false⟩),
    (text "iso88592", ⟨text "ISO-8859-2", false⟩),
    (text "iso88595", ⟨text "ISO-8859-5", false⟩),
    (text "iso88596", ⟨text "ISO-8859-6", false⟩),
    (text "iso88597", ⟨text "ISO-8859-7", false⟩),
    (text "iso88598", ⟨text "ISO-8859-8", false⟩),
    (text "iso88599", ⟨text "ISO-8859-9", false⟩),
    (text "iso15", ⟨text "ISO-8859-15", false⟩),
    (text "ascii8", ⟨text "US-ASCII", false⟩),
    (text "koi8", ⟨text "KOI8-R", false⟩)]

/-- What Qore has of encodings: `QCS_DEFAULT`, `QEM.findCreate`, and when `const_encoding_map_t`
takes two names for the same. The names in the table differ for it. -/
structure EncodingLib where
  qcsDefault : Encoding
  findCreate : Text → Encoding
  same : Text → Text → Bool
  same_self : ∀ name, same name name = true
  same_unique : ∀ first ∈ sybaseEncodings, ∀ second ∈ sybaseEncodings,
    same first.1 second.1 = true → first = second

/-- The parameters of a Datasource that an opening looks at first. -/
structure DatasourceParams where
  username : Option Text
  dbname : Option Text
  dbEncoding : Option Text
  qoreEncoding : Option Encoding

variable (lib : EncodingLib)

/-- `name_to_QoreEncoding`. -/
def nameToQoreEncoding (name : Text) : Encoding :=
  match sybaseEncodings.find? fun entry => lib.same entry.1 name with
  | some entry => entry.2
  | none => lib.findCreate name

/-- `QoreEncoding_to_SybaseName`. -/
def qoreEncodingToSybaseName (enc : Encoding) : Option Text :=
  (sybaseEncodings.find? fun entry => entry.2 = enc).map Prod.fst

/-- `sybase_open` up to the constructor of the connection. -/
def openParams (ds : DatasourceParams) : Except QoreException DatasourceParams :=
  if ds.username.isNone then
    .error ⟨"DATASOURCE-MISSING-USERNAME", "Datasource has an empty username parameter"⟩
  else if ds.dbname.isNone then
    .error ⟨"DATASOURCE-MISSING-DBNAME", "Datasource has an empty dbname parameter"⟩
  else match ds.dbEncoding with
    | some name => .ok { ds with qoreEncoding := some (nameToQoreEncoding lib name) }
    | none =>
      match qoreEncodingToSybaseName lib.qcsDefault with
      | none =>
        let code := String.ofList lib.qcsDefault.code
        .error ⟨"TDS-UNKNOWN-CHARACTER-SET",
          s!"cannot find the Sybase character encoding equivalent for '{code}'"⟩
      | some enc => .ok { ds with dbEncoding := some enc, qoreEncoding := some lib.qcsDefault }

/-- What happens to a Datasource: it is opened, whatever comes of the connection, or the user sets
its parameters. -/
inductive DatasourceEvent where
  | open
  | setLogin (username dbname : Option Text)
  | setDBEncoding (name : Text)

/-- The parameters after an event. -/
def DatasourceEvent.apply (ds : DatasourceParams) : DatasourceEvent → DatasourceParams
  | .open =>
    match openParams lib ds with
    | .ok ds => ds
    | .error _ => ds
  | setLogin username dbname => { ds with username := username, dbname := dbname }
  | setDBEncoding name => { ds with dbEncoding := some name }

/-! ### Agreement -/

section Agreement

variable {lib : EncodingLib} {ds opened : DatasourceParams}

/-- The encoding that a name from the table stands for. -/
theorem nameToQoreEncoding_of_mem (lib : EncodingLib) {entry : Text × Encoding}
    (member : entry ∈ sybaseEncodings) :
    nameToQoreEncoding lib entry.1 = entry.2 := by
  rw [nameToQoreEncoding]
  cases found : sybaseEncodings.find? fun other => lib.same other.1 entry.1 with
  | none => exact absurd (lib.same_self entry.1) (List.find?_eq_none.mp found entry member)
  | some other =>
    have same : lib.same other.1 entry.1 = true := by simpa using List.find?_some found
    rw [lib.same_unique other (List.mem_of_find?_eq_some found) entry member same]

/-- A name that is found for an encoding is in the table with it. -/
theorem mem_of_qoreEncodingToSybaseName {enc : Encoding} {name : Text}
    (found : qoreEncodingToSybaseName enc = some name) : (name, enc) ∈ sybaseEncodings := by
  obtain ⟨entry, first, rfl⟩ := Option.map_eq_some_iff.mp found
  have same : entry.2 = enc := by simpa using List.find?_some first
  rw [← same]
  exact List.mem_of_find?_eq_some first

/-- The character set of a Datasource stands for its encoding. They are what `connection::init`
starts from; it takes another encoding for strings where a Microsoft server has a code page of its
own. -/
def DatasourceParams.Agree (lib : EncodingLib) (ds : DatasourceParams) : Prop :=
  ∃ name, ds.dbEncoding = some name ∧ ds.qoreEncoding = some (nameToQoreEncoding lib name)

/-- What an opening makes of the encodings. -/
theorem openParams_encodings (opens : openParams lib ds = .ok opened) :
    opened.Agree lib ∧ (∀ name, ds.dbEncoding = some name → opened.dbEncoding = some name) ∧
      (ds.dbEncoding = none → opened.qoreEncoding = some lib.qcsDefault) := by
  unfold openParams at opens
  split at opens
  · cases opens
  split at opens
  · cases opens
  split at opens
  · rename_i name given
    cases opens
    exact ⟨⟨name, given, rfl⟩, fun _ => id,
      fun absent => absurd (given.symm.trans absent) (by simp)⟩
  · rename_i absent
    split at opens
    · cases opens
    · rename_i name found
      cases opens
      have stands := nameToQoreEncoding_of_mem lib (mem_of_qoreEncodingToSybaseName found)
      exact ⟨⟨name, rfl, congrArg some stands.symm⟩,
        fun _ given => absurd (absent.symm.trans given) (by simp), fun _ => rfl⟩

/-- The events that leave the choice of the encodings to the driver. -/
def DatasourceEvent.leavesEncoding : DatasourceEvent → Bool
  | setDBEncoding _ => false
  | _ => true

/-- Encodings that agree stay as they are. -/
theorem apply_encodings (agree : ds.Agree lib) {event : DatasourceEvent}
    (leaves : event.leavesEncoding = true) :
    (event.apply lib ds).dbEncoding = ds.dbEncoding ∧
      (event.apply lib ds).qoreEncoding = ds.qoreEncoding := by
  cases event with
  | setDBEncoding name => cases leaves
  | setLogin username dbname => exact ⟨rfl, rfl⟩
  | «open» =>
    obtain ⟨name, given, encoding⟩ := agree
    rw [DatasourceEvent.apply]
    cases opens : openParams lib ds with
    | error raised => exact ⟨rfl, rfl⟩
    | ok opened =>
      obtain ⟨⟨name', given', encoding'⟩, kept, -⟩ := openParams_encodings opens
      have same : opened.dbEncoding = some name := kept name given
      have names : name' = name := Option.some.inj (given'.symm.trans same)
      exact ⟨same.trans given.symm, encoding'.trans (names ▸ encoding.symm)⟩

/-- Encodings that agree stay as they are over any sequence of events. -/
theorem foldl_encodings {events : List DatasourceEvent} (agree : ds.Agree lib)
    (leave : ∀ event ∈ events, event.leavesEncoding = true) :
    (events.foldl (DatasourceEvent.apply lib) ds).dbEncoding = ds.dbEncoding ∧
      (events.foldl (DatasourceEvent.apply lib) ds).qoreEncoding = ds.qoreEncoding := by
  induction events generalizing ds with
  | nil => exact ⟨rfl, rfl⟩
  | cons event events inductionHypothesis =>
    obtain ⟨dbEncoding, qoreEncoding⟩ := apply_encodings agree (leave event List.mem_cons_self)
    obtain ⟨name, given, encoding⟩ := agree
    have agree : (event.apply lib ds).Agree lib :=
      ⟨name, dbEncoding.trans given, qoreEncoding.trans encoding⟩
    obtain ⟨dbEncoding', qoreEncoding'⟩ := inductionHypothesis agree fun other member =>
      leave other (List.mem_cons_of_mem _ member)
    exact ⟨dbEncoding'.trans dbEncoding, qoreEncoding'.trans qoreEncoding⟩

end Agreement

/-- From the first opening that gets as far as the encodings on, the character set of the Datasource
stands for its encoding, it is the one the user gave, or that of Qore's default encoding, and both
stay as they are over any sequence of openings, successful or not, and of changes of the login. -/
theorem encodings_settled {ds opened : DatasourceParams} (opens : openParams lib ds = .ok opened)
    {events : List DatasourceEvent} (leave : ∀ event ∈ events, event.leavesEncoding = true) :
    (events.foldl (DatasourceEvent.apply lib) opened).Agree lib ∧
    (events.foldl (DatasourceEvent.apply lib) opened).dbEncoding = opened.dbEncoding ∧
    (events.foldl (DatasourceEvent.apply lib) opened).qoreEncoding = opened.qoreEncoding ∧
    (∀ name, ds.dbEncoding = some name → opened.dbEncoding = some name) ∧
    (ds.dbEncoding = none → opened.qoreEncoding = some lib.qcsDefault) := by
  obtain ⟨agree, given, absent⟩ := openParams_encodings opens
  obtain ⟨keptName, keptEncoding⟩ := foldl_encodings agree leave
  obtain ⟨name, dbEncoding, qoreEncoding⟩ := agree
  exact ⟨⟨name, keptName.trans dbEncoding, keptEncoding.trans qoreEncoding⟩, keptName, keptEncoding,
    given, absent⟩

/-- A Qore with Latin 2 as its default encoding. -/
def sampleEncodings : EncodingLib where
  qcsDefault := ⟨text "ISO-8859-2", false⟩
  findCreate name := ⟨name, false⟩
  same first second := first = second
  same_self _ := decide_eq_true rfl
  same_unique := by decide

/-- A Datasource without an encoding that is opened twice, the second time by another user. -/
theorem encodings_settled_default :
    ([.open, .setLogin (some (text "sa")) (some (text "db")), .open].foldl
      (DatasourceEvent.apply sampleEncodings)
      ⟨some (text "guest"), some (text "db"), some (text "iso88592"),
        some ⟨text "ISO-8859-2", false⟩⟩).qoreEncoding = some ⟨text "ISO-8859-2", false⟩ := by
  have opens : openParams sampleEncodings ⟨some (text "guest"), some (text "db"), none, none⟩ =
      .ok ⟨some (text "guest"), some (text "db"), some (text "iso88592"),
        some ⟨text "ISO-8859-2", false⟩⟩ := rfl
  exact (encodings_settled sampleEncodings opens (by decide)).2.2.1

end Sybase
