import FormReply.Form.Bank
import FormReply.Form.FirstOccurrence
import FormReply.Form.UrlEncoded.Spelling
import FormReply.Json.Reader
import FormReply.Main
import FormReply.Multipart.Writer
import FormReply.Sandbox.Assembler
import FormReply.Settings.FileTree
import FormReply.Settings.Ini.Spelling
import FormReply.Proofs.Lists
import FormReply.Proofs.Outcomes
import FormReply.Proofs.Bytes.Search
import FormReply.Proofs.Bytes.Lines
import FormReply.Proofs.Text.Numeral
import FormReply.Proofs.Text.Utf8
import FormReply.Proofs.Text.LetterCase
import FormReply.Proofs.ContentType
import FormReply.Proofs.Form.Body
import FormReply.Proofs.Form.Merge
import FormReply.Proofs.Form.Lookup
import FormReply.Proofs.Form.Monoid
import FormReply.Proofs.Form.Bank
import FormReply.Proofs.Form.UrlEncoded
import FormReply.Proofs.Form.Blank
import FormReply.Proofs.Form.MediaType
import FormReply.Proofs.Json.Fragment
import FormReply.Proofs.Json.Cuts
import FormReply.Proofs.Json.Quoted
import FormReply.Proofs.Json.Tokens
import FormReply.Proofs.Json.RoundTrip
import FormReply.Proofs.Multipart.Grammar
import FormReply.Proofs.Form.Values
import FormReply.Proofs.Multipart.Truncation
import FormReply.Proofs.Multipart.Progress
import FormReply.Proofs.Multipart.Disposition
import FormReply.Proofs.Multipart.Header
import FormReply.Proofs.Multipart.RoundTrip
import FormReply.Proofs.Request
import FormReply.Proofs.Request.Length
import FormReply.Proofs.Reply.Post
import FormReply.Proofs.Reply.Cases
import FormReply.Proofs.Reply.Limit
import FormReply.Proofs.Reply.Body
import FormReply.Proofs.Reply.FirstWins
import FormReply.Proofs.Reply.Length
import FormReply.Proofs.Reply.QueryString
import FormReply.Proofs.Reply.Session
import FormReply.Proofs.Reply.Lines
import FormReply.Proofs.Reply.Debug
import FormReply.Proofs.Reply.Refusal
import FormReply.Proofs.Settings.Load
import FormReply.Proofs.Settings.Spelling
import FormReply.Proofs.Settings.Draft
import FormReply.Proofs.Response
import FormReply.Proofs.Sandbox
import FormReply.Proofs.Program.Run
import FormReply.Sandbox.Assembler
