import ScenePrompt.Main
import ScenePrompt.Project
import ScenePrompt.Proofs.Scene.NormalForm
import ScenePrompt.Proofs.Service.Endpoints
import ScenePrompt.Schema.Catalogue
import ScenePrompt.Proofs.Text.Phrase
import ScenePrompt.Proofs.Rule.Silence
import ScenePrompt.Proofs.Prompt.Template
import ScenePrompt.Proofs.Prompt.Heading
import ScenePrompt.Proofs.Prompt.Scaffold
import ScenePrompt.Proofs.Text.BlankLine
import ScenePrompt.Proofs.Prompt.Recovery
import ScenePrompt.Proofs.Scene.Restyling
import ScenePrompt.Proofs.Scene.Presentation
import ScenePrompt.Proofs.Rule.Locality
import ScenePrompt.Proofs.Rule.Composition
import ScenePrompt.Proofs.Rule.Slots
import ScenePrompt.Proofs.Compile.MovingUp
import ScenePrompt.Proofs.Rule.BlankSlot
import ScenePrompt.Proofs.Compile.Precedence
import ScenePrompt.Proofs.Rule.Threshold
import ScenePrompt.Proofs.Text.Pattern
import ScenePrompt.Proofs.Text.Sentence
import ScenePrompt.Proofs.Text.Vocabulary
import ScenePrompt.Proofs.Scene.Slotting
import ScenePrompt.Proofs.Schema.Extension
import ScenePrompt.Proofs.Suggestion.Payload
import ScenePrompt.Proofs.Suggestion.Uptake
