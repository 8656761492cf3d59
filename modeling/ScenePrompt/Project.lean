/-
  Projects: documents in which scenes are kept.

  A document is an object; its entry `scene` holds a scene as raw input, exactly as it was last
  written, and its entry `compiled` the last answer to a compile.  Documents are kept in a `Store`
  under identifiers.

  `Store.run` carries out one action on one document.  An action either succeeds and yields an
  outcome and the store after it, or fails and leaves the store as it was — so a failed compile
  does not take away an earlier answer.  Setting a key of a scene writes the entry in place if it
  is there already: the scene stays an object in the order in which its keys were first written.
-/
import ScenePrompt.Compile
import ScenePrompt.Rule.Table
import ScenePrompt.Suggestion

namespace ScenePrompt

/-! ## Stores -/

/-- Documents under their identifiers. -/
structure Store where
  documents : List (String × Entries) := []

namespace Store

/-- The document of an identifier. -/
def get? (store : Store) (id : String) : Option Entries := store.documents.lookup id

/-- Keep a document under an identifier, in place of the one that was there. -/
def insert (store : Store) (id : String) (document : Entries) : Store :=
  { documents := (id, document) :: store.documents.filter (!·.1 == id) }

/-- The identifiers in ascending order. -/
def ids (store : Store) : List String :=
  (store.documents.map Prod.fst).mergeSort fun a b => decide (a ≤ b)

end Store

/-! ## Actions -/

/-- What can be done with a document. -/
inductive Action where
  /-- keep a document -/
  | save (document : Entries)
  /-- write a key of the scene -/
  | set (key : String) (value : Json)
  /-- run the rules over the scene -/
  | validate
  /-- compile the scene and keep the answer -/
  | compile (defaultMode : String) (mode : Option String)
  /-- put the scene into normal form -/
  | normalize
  /-- take suggestions and write one of their lists under a key of the scene -/
  | suggest (category : String) (payload : Json) (key list : String)
  /-- look at the document -/
  | view

/-- What an action yields. -/
inductive Outcome where
  | ids (ids : List String)
  | scene (scene : Json)
  | validation (validation : Validation)
  | compiled (result : CompileResult)
  | document (document : Entries)

/-- Why an action failed. -/
inductive ProjectError where
  | noDocument (id : String)
  | fault (fault : Fault)
  | suggestion (error : SuggestionError)

/-- The wording of an error. -/
def ProjectError.message : ProjectError → String
  | noDocument id => "'" ++ id ++ "'"
  | fault f => f.message
  | suggestion e => e.message

namespace Store

/-- The scene of a document, as it was last written. -/
def sceneOf (document : Entries) : Json := (Entries.get? document "scene").getD .null

/-- A document with another scene. -/
def withScene (document : Entries) (scene : Json) : Entries :=
  Entries.put "scene" scene document

/-- A scene with a key written. -/
def writeKey (scene : Json) (key : String) (value : Json) : Json :=
  match scene with
  | .obj entries => .obj (Entries.put key value entries)
  | _ => .obj [(key, value)]

/-- Keep a document with another scene, and show the scene. -/
def keepScene (store : Store) (id : String) (document : Entries) (scene : Json) :
    Outcome × Store :=
  (.scene scene, store.insert id (withScene document scene))

/-- Carry out an action on a document that is there, judging by the given rules. -/
def runOn (rules : List Rule) (store : Store) (id : String) (document : Entries) :
    Action → Except ProjectError (Outcome × Store)
  | .save new =>
    let store := store.insert id new
    .ok (.ids store.ids, store)
  | .set key value => .ok (store.keepScene id document (writeKey (sceneOf document) key value))
  | .validate => do
    let v ← (validateRaw rules (sceneOf document)).mapError .fault
    .ok (.validation v, store)
  | .compile defaultMode mode => do
    let r ← (ScenePrompt.compile rules defaultMode mode (sceneOf document)).mapError .fault
    .ok (.compiled r, store.insert id (Entries.put "compiled" r.toJson document))
  | .normalize => do
    let s ← (Scene.ofRaw (sceneOf document)).mapError fun cause => .fault (.malformed cause)
    .ok (store.keepScene id document s.toJson)
  | .suggest category payload key list => do
    let s ← (Suggestions.parse category payload).mapError .suggestion
    let texts := (s.list? list).getD []
    .ok (store.keepScene id document (writeKey (sceneOf document) key (.texts texts)))
  | .view => .ok (.document document, store)

/-- Carry out an action.  Only `save` may be given an identifier that is not there. -/
def run (rules : List Rule) (store : Store) (id : String) (action : Action) :
    Except ProjectError (Outcome × Store) :=
  match store.get? id, action with
  | some document, action => store.runOn rules id document action
  | none, .save document => store.runOn rules id [] (.save document)
  | none, _ => .error (.noDocument id)

/-- The store after an action; a failed action changes nothing. -/
def after (store : Store) (result : Except ProjectError (Outcome × Store)) : Store :=
  match result with
  | .ok (_, store) => store
  | .error _ => store

end Store

/-- An outcome as an object. -/
def Outcome.toJson : Outcome → Json
  | ids xs => .obj [("ids", .texts xs)]
  | scene s => .obj [("scene", s)]
  | validation v => v.toJson
  | compiled r => .obj [("compiled", r.toJson)]
  | document d => .obj [("document", .obj d)]

end ScenePrompt
