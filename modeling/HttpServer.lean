import HttpServer.Calendar.Date
import HttpServer.Calendar.Timestamp
import HttpServer.Connection
import HttpServer.Encoding.Basic
import HttpServer.Encoding.Index.Big5
import HttpServer.Encoding.Index.EucKr
import HttpServer.Encoding.Index.Gb18030
import HttpServer.Encoding.Index.Jis0208
import HttpServer.Encoding.Iso2022Jp
import HttpServer.Encoding.Label
import HttpServer.Encoding.MultiByte
import HttpServer.Encoding.SingleByte
import HttpServer.Files.Edit
import HttpServer.Files.Listing
import HttpServer.Files.Path
import HttpServer.Files.Resolve
import HttpServer.Files.Static
import HttpServer.Files.Tree
import HttpServer.Handler
import HttpServer.Input.Basic
import HttpServer.Input.Part
import HttpServer.Net.Address
import HttpServer.Net.Host
import HttpServer.Net.Server
import HttpServer.Proofs.Calendar.Date
import HttpServer.Proofs.Calendar.Timestamp
import HttpServer.Proofs.Encoding.Output
import HttpServer.Proofs.Files.Confinement
import HttpServer.Proofs.Files.Download
import HttpServer.Proofs.Files.Heads
import HttpServer.Proofs.Files.Links
import HttpServer.Proofs.Files.Lookup
import HttpServer.Proofs.Files.Order
import HttpServer.Proofs.Files.Page
import HttpServer.Proofs.Files.Path
import HttpServer.Proofs.Files.Ranges
import HttpServer.Proofs.Files.ReadBack
import HttpServer.Proofs.Files.Redirect
import HttpServer.Proofs.Files.Reencoding
import HttpServer.Proofs.Files.References
import HttpServer.Proofs.Files.Resolve
import HttpServer.Proofs.Files.Target
import HttpServer.Proofs.Input.Arrival
import HttpServer.Proofs.Input.Bytewise
import HttpServer.Proofs.Input.Complete
import HttpServer.Proofs.Input.Part
import HttpServer.Proofs.Input.Sequel
import HttpServer.Proofs.Input.Watch
import HttpServer.Proofs.Net.Server
import HttpServer.Proofs.Net.Stop
import HttpServer.Proofs.Request.Arrival
import HttpServer.Proofs.Request.Bytewise
import HttpServer.Proofs.Request.Decoding
import HttpServer.Proofs.Request.Form
import HttpServer.Proofs.Request.Framing
import HttpServer.Proofs.Request.Grammar
import HttpServer.Proofs.Request.Pairs
import HttpServer.Proofs.Request.Params
import HttpServer.Proofs.Request.RoundTrip
import HttpServer.Proofs.Request.Spelling
import HttpServer.Proofs.Request.Truncation
import HttpServer.Proofs.Request.Watchdog
import HttpServer.Proofs.Response.Head
import HttpServer.Proofs.Response.Room
import HttpServer.Proofs.Response.Sink
import HttpServer.Proofs.Session
import HttpServer.Proofs.Text.Blank
import HttpServer.Proofs.Text.Entities
import HttpServer.Proofs.Text.Lossy
import HttpServer.Proofs.Text.Numeral
import HttpServer.Proofs.Text.Separator
import HttpServer.Proofs.Text.Split
import HttpServer.Proofs.Text.Strict
import HttpServer.Proofs.Text.Utf8
import HttpServer.Proofs.Text.Words
import HttpServer.Proofs.Uri.Canonical
import HttpServer.Proofs.Uri.Percent
import HttpServer.Proofs.Uri.Piece
import HttpServer.Request.Basic
import HttpServer.Request.Fields
import HttpServer.Request.Head
import HttpServer.Request.Params
import HttpServer.Request.Read
import HttpServer.Response.Basic
import HttpServer.Response.Reply
import HttpServer.Response.Write
import HttpServer.Settings
import HttpServer.Text.Basic
import HttpServer.Text.Blank
import HttpServer.Text.Markup
import HttpServer.Text.Numeral
import HttpServer.Text.Quoted
import HttpServer.Text.Split
import HttpServer.Text.Utf8
import HttpServer.Uri.Percent
import HttpServer.Yaml.Scalar
import HttpServer.Yaml.Token
import HttpServer.Yaml.Value
