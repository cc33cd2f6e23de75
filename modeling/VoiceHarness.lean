import VoiceHarness.Outbox.Dispatch
import VoiceHarness.Outbox.Leases
import VoiceHarness.Store.ArtifactProtocol
import VoiceHarness.Store.Capacity
import VoiceHarness.Store.ImportAtomicity
import VoiceHarness.Delivery.Protocol
import VoiceHarness.Question.Envelope
import VoiceHarness.Question.Offers
import VoiceHarness.Question.Trust
import VoiceHarness.Workflow.Approval
import VoiceHarness.Workflow.Classification
import VoiceHarness.Stt.Recovery
import VoiceHarness.Stt.RetainedState
import VoiceHarness.Stt.Vad
import VoiceHarness.Tts.Grammar
import VoiceHarness.Tts.Splitting
import VoiceHarness.Ticket.Renderings
import VoiceHarness.Ticket.UrlTargets
import VoiceHarness.Inbox.Clarification
import VoiceHarness.Turn.Completion
import VoiceHarness.Llm.Reply
import VoiceHarness.Speech.Confluence
import VoiceHarness.Job.Convergence
import VoiceHarness.Job.RoundTrip
import VoiceHarness.Vocabulary.Loading
import VoiceHarness.Activation.Runs
import VoiceHarness.Playback.Runs
import VoiceHarness.Ticket.Survivor
