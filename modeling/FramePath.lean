import FramePath.Backend
import FramePath.Bytes
import FramePath.Colour
import FramePath.Consumer
import FramePath.DisplayError
import FramePath.Embedding
import FramePath.Ensemble
import FramePath.Envelope
import FramePath.Frame
import FramePath.FrameError
import FramePath.Geometry
import FramePath.Lease
import FramePath.Lifecycle
import FramePath.Mailbox
import FramePath.Picture
import FramePath.Pipeline
import FramePath.PixelFormat
import FramePath.Placement
import FramePath.Planes
import FramePath.Presenter
import FramePath.Proofs.Acknowledgement
import FramePath.Proofs.Checked.Pipeline
import FramePath.Proofs.Checked.Planes
import FramePath.Proofs.Checked.Resample
import FramePath.Proofs.Checked.Turn
import FramePath.Proofs.Checked.Words
import FramePath.Proofs.Colour
import FramePath.Proofs.Desk.Attendance
import FramePath.Proofs.Desk.Calm
import FramePath.Proofs.Desk.Custody
import FramePath.Proofs.Desk.Deeds
import FramePath.Proofs.Desk.Effects
import FramePath.Proofs.Desk.Exposure
import FramePath.Proofs.Desk.Footing
import FramePath.Proofs.Desk.Hiding
import FramePath.Proofs.Desk.Isolation
import FramePath.Proofs.Desk.Ledger
import FramePath.Proofs.Desk.Lending
import FramePath.Proofs.Desk.Loans
import FramePath.Proofs.Desk.Moves
import FramePath.Proofs.Desk.Notices
import FramePath.Proofs.Desk.Outlook
import FramePath.Proofs.Desk.Placing
import FramePath.Proofs.Desk.Programme
import FramePath.Proofs.Desk.Record
import FramePath.Proofs.Desk.Run
import FramePath.Proofs.Desk.Settlement
import FramePath.Proofs.Desk.Sites
import FramePath.Proofs.Desk.Sizing
import FramePath.Proofs.Desk.Standing
import FramePath.Proofs.Desk.Steps
import FramePath.Proofs.Desk.Stranded
import FramePath.Proofs.Desk.Teardown
import FramePath.Proofs.Desk.Tenure
import FramePath.Proofs.Desk.Terms
import FramePath.Proofs.Desk.Visibility
import FramePath.Proofs.Desk.Watch
import FramePath.Proofs.Embedding
import FramePath.Proofs.Lease
import FramePath.Proofs.Machine
import FramePath.Proofs.Mailbox.Delivery
import FramePath.Proofs.Mailbox.Noted
import FramePath.Proofs.Mailbox.Recovery
import FramePath.Proofs.Mailbox.Shifts
import FramePath.Proofs.Mailbox.Steps
import FramePath.Proofs.Painting
import FramePath.Proofs.Picture
import FramePath.Proofs.Pipeline.Develop
import FramePath.Proofs.Pipeline.EndToEnd
import FramePath.Proofs.Pipeline.Outcome
import FramePath.Proofs.Pipeline.Renewal
import FramePath.Proofs.Pipeline.Run
import FramePath.Proofs.Pipeline.Stages
import FramePath.Proofs.Pipeline.Steps
import FramePath.Proofs.Planes
import FramePath.Proofs.Planes.Conversion
import FramePath.Proofs.Refusal
import FramePath.Proofs.Renderer.Giving
import FramePath.Proofs.Renderer.Steps
import FramePath.Proofs.Resample
import FramePath.Proofs.Resample.Accuracy
import FramePath.Proofs.Resample.Enlargement
import FramePath.Proofs.Roster
import FramePath.Proofs.Scene
import FramePath.Proofs.Scene.Attendance
import FramePath.Proofs.Scene.Exhibits
import FramePath.Proofs.Scene.Panels
import FramePath.Proofs.Scene.Plates
import FramePath.Proofs.Scene.Views
import FramePath.Proofs.Scratch
import FramePath.Proofs.Scratch.Rack
import FramePath.Proofs.Sink.Agreement
import FramePath.Proofs.Sink.Contents
import FramePath.Proofs.Sink.Lifecycle
import FramePath.Proofs.Sink.Run
import FramePath.Proofs.Sink.Station
import FramePath.Proofs.Size
import FramePath.Proofs.Turn
import FramePath.Proofs.Turn.Chain
import FramePath.Proofs.Turn.Textbook
import FramePath.Recipient
import FramePath.Recorder
import FramePath.Renderer
import FramePath.Resample
import FramePath.Roster
import FramePath.Scene
import FramePath.Schedule
import FramePath.Scratch
import FramePath.Sink.Display
import FramePath.Sink.Memory
import FramePath.Size
import FramePath.Surface
import FramePath.Turn
