import RevocationLab.Authority.Basic
import RevocationLab.Authority.Ledger
import RevocationLab.Authority.Registry
import RevocationLab.Base64
import RevocationLab.Calendar
import RevocationLab.CommandLine
import RevocationLab.Connection.AcceptLoop
import RevocationLab.Connection.Listener
import RevocationLab.Connection.Tracker
import RevocationLab.Der.Decoder
import RevocationLab.Der.Element
import RevocationLab.Der.ObjectId
import RevocationLab.Der.Primitive
import RevocationLab.Der.Time
import RevocationLab.Digest
import RevocationLab.Digest.Sha1
import RevocationLab.Digest.Sha256
import RevocationLab.Dispatch.Dispatcher
import RevocationLab.Dispatch.Fault
import RevocationLab.Http.Body
import RevocationLab.Http.Header
import RevocationLab.Http.Method
import RevocationLab.Http.Request
import RevocationLab.Http.Response
import RevocationLab.Http.Target
import RevocationLab.Instant
import RevocationLab.Keyed
import RevocationLab.Lab
import RevocationLab.Log
import RevocationLab.LogFilter
import RevocationLab.Main
import RevocationLab.Metrics
import RevocationLab.Ocsp.Address
import RevocationLab.Ocsp.CertId
import RevocationLab.Ocsp.Request
import RevocationLab.Ocsp.Response
import RevocationLab.Ocsp.Segment
import RevocationLab.Ocsp.Signing
import RevocationLab.Ocsp.Status
import RevocationLab.Octets
import RevocationLab.Responder.Basic
import RevocationLab.Responder.Certificate
import RevocationLab.Responder.Ocsp
import RevocationLab.Responder.Outcome
import RevocationLab.Responder.Script
import RevocationLab.Routing.Key
import RevocationLab.Routing.Registration
import RevocationLab.Routing.Table
import RevocationLab.Rsa
import RevocationLab.Rsa.Generate
import RevocationLab.Server
import RevocationLab.Settings.Basic
import RevocationLab.Settings.Problem
import RevocationLab.Settings.Reading
import RevocationLab.Settings.Writing
import RevocationLab.Shutdown
import RevocationLab.SocketAddress
import RevocationLab.Startup
import RevocationLab.Tally
import RevocationLab.Text.Ascii
import RevocationLab.Text.Json
import RevocationLab.Text.Printable
import RevocationLab.Text.Quoted
import RevocationLab.Text.Similarity
import RevocationLab.Text.Words
import RevocationLab.Toml.Document
import RevocationLab.Toml.Number
import RevocationLab.Toml.Text
import RevocationLab.Toml.Value
import RevocationLab.Url.Basic
import RevocationLab.Url.Host
import RevocationLab.Url.Label
import RevocationLab.Url.Parse
import RevocationLab.Url.Percent
import RevocationLab.Uuid
import RevocationLab.Watch
import RevocationLab.X509.Certificate
import RevocationLab.X509.Descriptor
import RevocationLab.X509.DirectoryText
import RevocationLab.X509.Extension
import RevocationLab.X509.GeneralName
import RevocationLab.X509.Issuing
import RevocationLab.X509.Name
import RevocationLab.X509.NameText
import RevocationLab.X509.SerialNumber
import RevocationLab.Proofs.Text.Utf8
import RevocationLab.Proofs.Text.Ascii
import RevocationLab.Proofs.Routing.Traffic
import RevocationLab.Proofs.Der.Element
import RevocationLab.Proofs.Der.Decoder
import RevocationLab.Proofs.Calendar
import RevocationLab.Proofs.Der.Time
import RevocationLab.Proofs.X509.Extension
import RevocationLab.Proofs.X509.Certificate
import RevocationLab.Proofs.Der.Canonical
import RevocationLab.Proofs.Ocsp.Request
import RevocationLab.Proofs.Ocsp.Response
import RevocationLab.Proofs.Ocsp.Signing
import RevocationLab.Proofs.Authority.Registry
import RevocationLab.Proofs.Lab.History
import RevocationLab.Proofs.Lab.Ledger
import RevocationLab.Proofs.Lab.Status
import RevocationLab.Proofs.Responder.Ocsp
import RevocationLab.Proofs.Base64
import RevocationLab.Proofs.Ocsp.Segment
import RevocationLab.Proofs.Http.Request
import RevocationLab.Proofs.Http.Reading
import RevocationLab.Proofs.Routing.Key
import RevocationLab.Proofs.Responder.Delivery
import RevocationLab.Proofs.Responder.Mistakes
import RevocationLab.Proofs.Lab.Routes
import RevocationLab.Proofs.Der.Apart
import RevocationLab.Proofs.Ocsp.Encoding
import RevocationLab.Proofs.Dispatch.Accounting
import RevocationLab.Proofs.Connection.AcceptLoop
import RevocationLab.Proofs.Authority.Link
import RevocationLab.Proofs.Lab.Chain
import RevocationLab.Proofs.Responder.Moment
import RevocationLab.Proofs.Base64.Canonical
import RevocationLab.Proofs.Ocsp.Grammar
import RevocationLab.Proofs.Watch
import RevocationLab.Proofs.Shutdown
import RevocationLab.Proofs.Lab.Gauge
import RevocationLab.Proofs.Ocsp.ResponseEncoding
import RevocationLab.Proofs.Lab.Timeline
import RevocationLab.Proofs.Lab.Entries
import RevocationLab.Proofs.X509.CommonName
import RevocationLab.Proofs.Authority.Subject
import RevocationLab.Proofs.Url.Segments
import RevocationLab.Proofs.Url.Append
import RevocationLab.Proofs.Responder.Address
import RevocationLab.Proofs.Ocsp.Window
import RevocationLab.Proofs.Http.Length
import RevocationLab.Proofs.Http.Response
import RevocationLab.Proofs.Settings.Problem
import RevocationLab.Proofs.Startup
import RevocationLab.Proofs.Settings.Reading
import RevocationLab.Proofs.Url.Root
import RevocationLab.Proofs.Authority.Address
import RevocationLab.Proofs.Lab.Registering
import RevocationLab.Proofs.Lab.Served
